import Herald.Attribute.Basic
import Herald.Failure

/-! # Attribute schemas

A schema lists every attribute that a tenant may use for one kind of target: the built-in ones
first, then the declared ones in the order of their first declaration, each key once. It decides
which data maps may be written.
-/

namespace Herald

/-- The attributes of one tenant's targets of one kind. -/
structure AttributeSchema where
  tenant : String
  target : TargetKind
  specs : List AttributeSpec
  deriving DecidableEq

namespace AttributeSchema

/-- Declare an attribute: at its old place if the key is known, at the end otherwise. -/
def declare (specs : List AttributeSpec) (spec : AttributeSpec) : List AttributeSpec :=
  match specs with
  | [] => [spec]
  | first :: rest => if first.key == spec.key then spec :: rest else first :: declare rest spec

/-- Declare several attributes, the last declaration of a key counting. -/
def declareAll (specs declared : List AttributeSpec) : List AttributeSpec :=
  declared.foldl declare specs

/-- The first declared key that belongs to a built-in attribute. -/
def clash? (target : TargetKind) (declared : List AttributeSpec) : Option AttributeSpec :=
  declared.find? fun spec => target.hasBuiltin spec.key && !spec.builtin

/-- The schema of declared attributes. A built-in attribute may not be declared anew. -/
def ofSpecs (tenant targetName : String) (declared : List AttributeSpec) :
    Checked AttributeSchema :=
  match TargetKind.ofName? targetName with
  | none => Checked.complain (.rule s!"Unknown target type '{targetName}'")
  | some target =>
    let distinct := declareAll [] declared
    match clash? target distinct with
    | some spec => Checked.complain (.rule s!"'{spec.key}' is a built-in {targetName} field")
    | none => .valid ⟨tenant, target, declareAll target.builtins distinct⟩

def get? (schema : AttributeSchema) (key : String) : Option AttributeSpec :=
  schema.specs.find? fun spec => spec.key == key

def keys (schema : AttributeSchema) : List String := schema.specs.map AttributeSpec.key

/-- The declared attributes, without the built-in ones. -/
def custom (schema : AttributeSchema) : List AttributeSpec :=
  schema.specs.filter fun spec => !spec.builtin

/-- What is wrong with the first entry of a data map that does not fit, if there is one. -/
def entryProblem? (schema : AttributeSchema) : Fields → Option Violation
  | [] => none
  | (key, value) :: rest =>
    match schema.get? key with
    | none => some (.ofKey s!"Attribute '{key}' is not declared for {schema.target.name}" key)
    | some spec =>
      if spec.builtin then
        some (.ofKey s!"Attribute '{key}' is not declared for {schema.target.name}" key)
      else if value.isNull then entryProblem? schema rest
      else match spec.problem? value with
        | some problem => some (.ofKey s!"Invalid value for '{key}': {problem}" key)
        | none => entryProblem? schema rest

/-- The first required attribute that a data map leaves out. -/
def missing? (schema : AttributeSchema) (data : Fields) : Option AttributeSpec :=
  schema.specs.find? fun spec =>
    spec.required && !spec.builtin && (data.getOrNull spec.key).isNull

/-- Why a data map may not be written; nothing if it may. -/
def violation? (schema : AttributeSchema) (data : Fields) : Option Violation :=
  match schema.entryProblem? data with
  | some violation => some violation
  | none =>
    match schema.missing? data with
    | some spec => some (.ofKey s!"Required attribute '{spec.key}' is missing" spec.key)
    | none => none

end AttributeSchema

end Herald
