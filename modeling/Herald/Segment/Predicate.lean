import Herald.Attribute.Schema
import Herald.Filter
import Herald.Segment.Operand

/-! # Compiled filters

Compiling a filter checks every condition against the tenant's schema: its key must be declared,
its operator known and allowed for the attribute's kind, and its operand of the documented form.
The first condition that fails decides the failure. A compiled filter is reported in full, which
every operand has to allow. The result is evaluated on attribute maps.
-/

namespace Herald

open Value (Refusal)

/-- A condition bound to the declared kind of its attribute. -/
structure CompiledCondition where
  key : String
  operator : Operator
  kind : AttributeKind
  test : Test

/-- A compiled filter. -/
structure Predicate where
  logic : Logic
  conditions : List CompiledCondition
  target : TargetKind

namespace CompiledCondition

/-- Check a condition against a schema. -/
def compile (schema : AttributeSchema) (condition : Condition) :
    Except Failure CompiledCondition :=
  match schema.get? condition.key with
  | none =>
    .error (.violation (.ofCondition
      s!"Unknown attribute '{condition.key}' for {schema.target.name}"
      condition.key condition.operator))
  | some spec =>
    match Operator.ofName? condition.operator with
    | none =>
      .error (.violation (.ofCondition s!"Unknown operator '{condition.operator}'"
        condition.key condition.operator))
    | some operator =>
      if spec.allows operator then
        match Operand.test spec.kind operator condition.value with
        | .ok test => .ok ⟨spec.key, operator, spec.kind, test⟩
        | .error (.malformed message) =>
          .error (.violation (.ofCondition
            s!"Invalid value for '{spec.key}' {operator.name}: {message}"
            condition.key operator.name))
        | .error (.refused refusal) => .error (.ofRefusal refusal)
      else
        .error (.violation (.ofCondition
          s!"Operator '{operator.name}' is not allowed for {spec.kind.name} attribute '{spec.key}'"
          condition.key operator.name))

/-- Whether a condition holds of an attribute map on a day. A missing or null attribute matches
only the tests for absence. -/
def holds (condition : CompiledCondition) (values : Fields) (today : Date) :
    Except Refusal Bool :=
  let stored := values.getOrNull condition.key
  if condition.operator.requiresPresence && stored.isNull then .ok false
  else condition.test.holds stored today

end CompiledCondition

namespace Predicate

/-- Compile a filter that has been read. -/
def compile (schema : AttributeSchema) (filter : Filter) : Except Failure Predicate := do
  let conditions ← filter.conditions.mapM (CompiledCondition.compile schema)
  match conditions.findSome? fun condition => condition.test.fault? with
  | some fault => throw (.ofRefusal fault)
  | none => return ⟨filter.logic, conditions, schema.target⟩

/-- Compile a filter as it is stored or submitted. -/
def compileRaw (schema : AttributeSchema) (raw : Value) : Except Failure Predicate :=
  match Filter.ofRaw raw with
  | .valid filter => compile schema filter
  | .refused problems =>
    .error (.violation { Violation.plain "Malformed filter" with problems := some problems })

/-- The keys that a predicate looks at, in order and without repetition. -/
def keys (predicate : Predicate) : List String :=
  (predicate.conditions.map CompiledCondition.key).eraseDups.mergeSort fun a b => decide (a ≤ b)

/-- Whether any condition holds; the first that does ends the search. -/
def anyHolds (values : Fields) (today : Date) : List CompiledCondition → Except Refusal Bool
  | [] => .ok false
  | condition :: rest => do
    if ← condition.holds values today then return true else anyHolds values today rest

/-- Whether all conditions hold; the first that does not ends the search. -/
def allHold (values : Fields) (today : Date) : List CompiledCondition → Except Refusal Bool
  | [] => .ok true
  | condition :: rest => do
    if ← condition.holds values today then allHold values today rest else return false

/-- Whether a predicate holds of an attribute map on a day. Without conditions it always does. -/
def holds (predicate : Predicate) (values : Fields) (today : Date) : Except Refusal Bool :=
  if predicate.conditions.isEmpty then .ok true
  else match predicate.logic with
    | .any => anyHolds values today predicate.conditions
    | .all => allHold values today predicate.conditions

end Predicate

end Herald
