import Herald.Proofs.Operands
import Herald.Proofs.Sums
import Herald.Segment.Predicate

/-! # What the compiler accepts

A filter compiles exactly if it can be read, every condition is legal under the schema, and every
operand can be reported. Otherwise it is refused with a schema violation, but for the operands that
break off their reading and those that cannot be reported: these let a failure of another kind out.
-/

namespace Herald

open Value (Refusal)

/-! ## Conditions -/

theorem Operator.ofName?_name (operator : Operator) : ofName? operator.name = some operator := by
  cases operator <;> rfl

theorem Operator.ofName?_eq_some_iff {name : String} {operator : Operator} :
    ofName? name = some operator ↔ operator.name = name := by
  constructor
  · intro found
    simpa [ofName?] using List.find?_some found
  · rintro rfl
    exact ofName?_name operator

namespace Condition

/-- A condition applies an operator to a declared attribute that the operator may be applied to. -/
structure Applies (schema : AttributeSchema) (condition : Condition) (spec : AttributeSpec)
    (operator : Operator) : Prop where
  declared : schema.get? condition.key = some spec
  named : operator.name = condition.operator
  allowed : operator ∈ spec.kind.operators

/-- A condition is legal if its key is declared, its operator known and allowed for the attribute's
kind, and its value of the form that the operator documents. -/
def IsLegal (schema : AttributeSchema) (condition : Condition) : Prop :=
  ∃ spec operator, condition.Applies schema spec operator ∧
    (operator.form spec.kind).Admits condition.value

/-- Reading the value of a condition breaks off with another failure than a malformed operand. -/
def Breaks (schema : AttributeSchema) (condition : Condition) : Prop :=
  ∃ spec operator, condition.Applies schema spec operator ∧
    (operator.form spec.kind).Breaks condition.value

/-- A condition whose operand is read: it is legal, and nothing breaks off. -/
def IsFine (schema : AttributeSchema) (condition : Condition) : Prop :=
  condition.IsLegal schema ∧ ¬ condition.Breaks schema

/-- The value of a condition cannot be reported. -/
def IsUnreportable (schema : AttributeSchema) (condition : Condition) : Prop :=
  ∃ spec operator, condition.Applies schema spec operator ∧
    (operator.form spec.kind).Unreportable condition.value

/-- A compiled condition is what a condition says, bound to the declared kind of its attribute. -/
structure IsBound (schema : AttributeSchema) (condition : Condition)
    (compiled : CompiledCondition) : Prop where
  key_eq : compiled.key = condition.key
  operator_eq : compiled.operator.name = condition.operator
  declared : ∃ spec, schema.get? condition.key = some spec ∧ compiled.kind = spec.kind
  test_eq : Operand.test compiled.kind compiled.operator condition.value = .ok compiled.test

variable {schema : AttributeSchema} {condition : Condition} {spec : AttributeSpec}
  {operator : Operator}

theorem Applies.unique (applies : condition.Applies schema spec operator)
    {other : AttributeSpec} {also : Operator} (again : condition.Applies schema other also) :
    other = spec ∧ also = operator := by
  have declared := again.declared.symm.trans applies.declared
  have named := Operator.ofName?_eq_some_iff.mpr (again.named.trans applies.named.symm)
  rw [Operator.ofName?_name] at named
  exact ⟨Option.some_inj.mp declared, (Option.some_inj.mp named).symm⟩

/-- What is said of the declared attribute and operator of a condition is said of the only ones. -/
theorem Applies.exists_iff (applies : condition.Applies schema spec operator)
    {P : AttributeSpec → Operator → Prop} :
    (∃ spec operator, condition.Applies schema spec operator ∧ P spec operator) ↔
      P spec operator := by
  constructor
  · rintro ⟨other, also, again, holds⟩
    obtain ⟨rfl, rfl⟩ := applies.unique again
    exact holds
  · exact fun holds => ⟨spec, operator, applies, holds⟩

end Condition

/-- A failure that is no schema violation. -/
def Failure.Escapes (failure : Failure) : Prop := ∀ violation, failure ≠ .violation violation

theorem Failure.escapes_ofRefusal (refusal : Refusal) : (ofRefusal refusal).Escapes := by
  cases refusal <;> nofun

namespace CompiledCondition

variable {schema : AttributeSchema} {condition : Condition} {spec : AttributeSpec}
  {operator : Operator}

/-- A condition that applies stands or falls with its operand. -/
theorem compile_of_ok {test : Test} (applies : condition.Applies schema spec operator)
    (read : Operand.test spec.kind operator condition.value = .ok test) :
    compile schema condition = .ok ⟨spec.key, operator, spec.kind, test⟩ := by
  have allowed : spec.allows operator = true := List.contains_iff_mem.mpr applies.allowed
  rw [compile, applies.declared, ← applies.named, Operator.ofName?_name]
  dsimp only
  rw [if_pos allowed, read]

theorem compile_of_malformed {message : String} (applies : condition.Applies schema spec operator)
    (read : Operand.test spec.kind operator condition.value = .error (.malformed message)) :
    ∃ violation, compile schema condition = .error (.violation violation) := by
  have allowed : spec.allows operator = true := List.contains_iff_mem.mpr applies.allowed
  rw [compile, applies.declared, ← applies.named, Operator.ofName?_name]
  dsimp only
  rw [if_pos allowed, read]
  exact ⟨_, rfl⟩

theorem compile_of_refused {refusal : Refusal}
    (applies : condition.Applies schema spec operator)
    (read : Operand.test spec.kind operator condition.value = .error (.refused refusal)) :
    compile schema condition = .error (.ofRefusal refusal) := by
  have allowed : spec.allows operator = true := List.contains_iff_mem.mpr applies.allowed
  rw [compile, applies.declared, ← applies.named, Operator.ofName?_name]
  dsimp only
  rw [if_pos allowed, read]

/-- A condition that does not apply is a violation of the schema. -/
theorem compile_of_not_applies
    (none : ∀ spec operator, ¬ condition.Applies schema spec operator) :
    ∃ violation, compile schema condition = .error (.violation violation) := by
  unfold compile
  split
  · exact ⟨_, rfl⟩
  · rename_i spec declared
    split
    · exact ⟨_, rfl⟩
    · rename_i operator named
      split
      · rename_i allowed
        exact absurd ⟨declared, Operator.ofName?_eq_some_iff.mp named,
          List.contains_iff_mem.mp allowed⟩ (none spec operator)
      · exact ⟨_, rfl⟩

/-- How compiling a condition comes out. -/
inductive Compiles (schema : AttributeSchema) (condition : Condition) : Prop
  | bound {compiled : CompiledCondition} (fine : condition.IsFine schema)
    (binds : condition.IsBound schema compiled)
    (fault_iff : compiled.test.fault?.isSome = true ↔ condition.IsUnreportable schema)
    (compiles : compile schema condition = .ok compiled)
  | violating {violation : Violation} (illegal : ¬ condition.IsLegal schema)
    (sound : ¬ condition.Breaks schema)
    (fails : compile schema condition = .error (.violation violation))
  | breaking {refusal : Refusal} (breaks : condition.Breaks schema)
    (fails : compile schema condition = .error (.ofRefusal refusal))

theorem compiles_of_applies (applies : condition.Applies schema spec operator) :
    Compiles schema condition := by
  have reads := Operand.test_reads spec.kind operator condition.value
  have fine_iff : (operator.form spec.kind).Admits condition.value ∧
      ¬ (operator.form spec.kind).Breaks condition.value ↔ condition.IsFine schema := by
    rw [Condition.IsFine, Condition.IsLegal, Condition.Breaks, applies.exists_iff,
      applies.exists_iff]
  cases read : Operand.test spec.kind operator condition.value with
  | ok test =>
    have key : spec.key = condition.key := by simpa using List.find?_some applies.declared
    refine .bound (fine_iff.mp (reads.settles.ok_iff.mp ⟨test, read⟩))
      ⟨key, applies.named, ⟨spec, applies.declared, rfl⟩, read⟩ ?_ (compile_of_ok applies read)
    rw [Condition.IsUnreportable, applies.exists_iff]
    exact reads.fault_iff read
  | error problem =>
    cases problem with
    | malformed message =>
      obtain ⟨violation, fails⟩ := compile_of_malformed applies read
      have sound : ¬ (operator.form spec.kind).Breaks condition.value := by
        rw [← reads.settles.refused_iff, read]
        nofun
      have unfit : ¬ (operator.form spec.kind).Admits condition.value := by
        intro admits
        obtain ⟨test, ok⟩ := reads.settles.ok_iff.mpr ⟨admits, sound⟩
        cases read.symm.trans ok
      exact .violating (mt applies.exists_iff.mp unfit) (mt applies.exists_iff.mp sound) fails
    | refused refusal =>
      have breaks := reads.settles.refused_iff.mp ⟨refusal, read⟩
      exact .breaking (applies.exists_iff.mpr breaks) (compile_of_refused applies read)

theorem compiles (schema : AttributeSchema) (condition : Condition) :
    Compiles schema condition := by
  by_cases applies : ∃ spec operator, condition.Applies schema spec operator
  · obtain ⟨spec, operator, applies⟩ := applies
    exact compiles_of_applies applies
  · have stranger : ∀ spec operator, ¬ condition.Applies schema spec operator :=
      fun spec operator applied => applies ⟨spec, operator, applied⟩
    obtain ⟨violation, fails⟩ := compile_of_not_applies stranger
    exact .violating (fun ⟨spec, operator, applied, _⟩ => stranger spec operator applied)
      (fun ⟨spec, operator, applied, _⟩ => stranger spec operator applied) fails

end CompiledCondition

/-! ## Filters -/

/-- The ways in which compiling conditions lets out a failure that is no schema violation: the first
condition that is not fine breaks off, or all are fine and one of them cannot be reported. -/
inductive LetsOut (schema : AttributeSchema) (conditions : List Condition) : Prop
  | reading {before after : List Condition} {condition : Condition}
    (split : conditions = before ++ condition :: after)
    (fine : ∀ earlier ∈ before, earlier.IsFine schema) (breaks : condition.Breaks schema)
  | reporting {condition : Condition} (fine : ∀ other ∈ conditions, other.IsFine schema)
    (member : condition ∈ conditions) (unreportable : condition.IsUnreportable schema)

namespace Predicate

variable {schema : AttributeSchema} {conditions : List Condition}

/-- How compiling the conditions of a filter comes out. -/
inductive CompilesAll (schema : AttributeSchema) (conditions : List Condition) : Prop
  | bound {compiled : List CompiledCondition}
    (fine : ∀ condition ∈ conditions, condition.IsFine schema)
    (binds : List.Forall₂ (Condition.IsBound schema) conditions compiled)
    (fault_iff : (∃ condition ∈ compiled, condition.test.fault?.isSome = true) ↔
      ∃ condition ∈ conditions, condition.IsUnreportable schema)
    (compiles : conditions.mapM (CompiledCondition.compile schema) = .ok compiled)
  | stopped {before after : List Condition} {condition : Condition} {failure : Failure}
    (split : conditions = before ++ condition :: after)
    (fine : ∀ earlier ∈ before, earlier.IsFine schema)
    (unfit : ¬ condition.IsFine schema)
    (escapes_iff : failure.Escapes ↔ condition.Breaks schema)
    (fails : conditions.mapM (CompiledCondition.compile schema) = .error failure)

/-- The condition in front stops the compilation. -/
theorem CompilesAll.stop {condition : Condition} {failure : Failure}
    (unfit : ¬ condition.IsFine schema) (escapes_iff : failure.Escapes ↔ condition.Breaks schema)
    (fails : CompiledCondition.compile schema condition = .error failure) (rest : List Condition) :
    CompilesAll schema (condition :: rest) := by
  refine .stopped (List.nil_append (condition :: rest)).symm (List.forall_mem_nil _) unfit
    escapes_iff ?_
  rw [List.mapM_cons, fails]
  rfl

/-- The condition in front is compiled, and the rest decides. -/
theorem CompilesAll.go {condition : Condition} {compiled : CompiledCondition}
    {rest : List Condition} (fine : condition.IsFine schema)
    (binds : condition.IsBound schema compiled)
    (fault_iff : compiled.test.fault?.isSome = true ↔ condition.IsUnreportable schema)
    (compiles : CompiledCondition.compile schema condition = .ok compiled)
    (others : CompilesAll schema rest) : CompilesAll schema (condition :: rest) := by
  cases others with
  | bound allFine allBind some_iff allCompile =>
    refine .bound (List.forall_mem_cons.mpr ⟨fine, allFine⟩) (.cons binds allBind) ?_
      (by rw [List.mapM_cons, compiles, allCompile]; rfl)
    simp only [List.mem_cons, exists_eq_or_imp, fault_iff, some_iff]
  | stopped split before unfit escapes_iff fails =>
    refine .stopped (congrArg (condition :: ·) split) (List.forall_mem_cons.mpr ⟨fine, before⟩)
      unfit escapes_iff ?_
    rw [List.mapM_cons, compiles, fails]
    rfl

theorem compilesAll (schema : AttributeSchema) (conditions : List Condition) :
    CompilesAll schema conditions := by
  induction conditions with
  | nil => exact .bound (List.forall_mem_nil _) .nil (by simp) rfl
  | cons condition rest ih =>
    cases CompiledCondition.compiles schema condition with
    | bound fine binds fault_iff compiles => exact ih.go fine binds fault_iff compiles
    | violating illegal sound fails =>
      refine .stop (fun fine => illegal fine.1) ⟨fun escapes => ?_, fun breaks => ?_⟩ fails rest
      · exact absurd rfl (escapes _)
      · exact absurd breaks sound
    | breaking breaks fails =>
      exact .stop (fun fine => fine.2 breaks)
        ⟨fun _ => breaks, fun _ => Failure.escapes_ofRefusal _⟩ fails rest

/-- Only one item can be the first that is not fine. -/
theorem first_unfit {α : Type} {P : α → Prop} {before after fore aft : List α} {item other : α}
    (same : before ++ item :: after = fore ++ other :: aft) (fine : ∀ earlier ∈ before, P earlier)
    (unfit : ¬ P item) (good : ∀ earlier ∈ fore, P earlier) (bad : ¬ P other) : item = other := by
  rcases List.append_eq_append_iff.mp same with ⟨more, rfl, tail⟩ | ⟨more, rfl, tail⟩
  · cases more with
    | nil => exact (List.cons.inj tail).1
    | cons first rest =>
      obtain ⟨rfl, -⟩ := List.cons.inj tail
      exact absurd (good item (List.mem_append_right before List.mem_cons_self)) unfit
  · cases more with
    | nil => exact (List.cons.inj tail).1.symm
    | cons first rest =>
      obtain ⟨rfl, -⟩ := List.cons.inj tail
      exact absurd (fine other (List.mem_append_right fore List.mem_cons_self)) bad

theorem letsOut_iff_of_stopped {before after : List Condition} {condition : Condition}
    (split : conditions = before ++ condition :: after)
    (fine : ∀ earlier ∈ before, earlier.IsFine schema) (unfit : ¬ condition.IsFine schema) :
    LetsOut schema conditions ↔ condition.Breaks schema := by
  constructor
  · intro letsOut
    cases letsOut with
    | reading also good breaks =>
      rwa [first_unfit (split.symm.trans also) fine unfit good fun read => read.2 breaks]
    | reporting all =>
      exact absurd (all condition (split ▸ List.mem_append_right before List.mem_cons_self)) unfit
  · exact .reading split fine

theorem letsOut_iff_of_fine (fine : ∀ condition ∈ conditions, condition.IsFine schema) :
    LetsOut schema conditions ↔ ∃ condition ∈ conditions, condition.IsUnreportable schema := by
  constructor
  · intro letsOut
    cases letsOut with
    | reading split _ breaks =>
      have member := split ▸ List.mem_append_right _ List.mem_cons_self
      exact absurd breaks (fine _ member).2
    | reporting _ member unreportable => exact ⟨_, member, unreportable⟩
  · exact fun ⟨_, member, unreportable⟩ => .reporting fine member unreportable

/-- How compiling a filter comes out. -/
inductive Outcome (schema : AttributeSchema) (filter : Filter) : Except Failure Predicate → Prop
  | compiled {predicate : Predicate}
    (fine : ∀ condition ∈ filter.conditions,
      condition.IsFine schema ∧ ¬ condition.IsUnreportable schema)
    (logic_eq : predicate.logic = filter.logic) (target_eq : predicate.target = schema.target)
    (binds : List.Forall₂ (Condition.IsBound schema) filter.conditions predicate.conditions) :
    Outcome schema filter (.ok predicate)
  | refused {failure : Failure}
    (unfit : ∃ condition ∈ filter.conditions,
      ¬ (condition.IsFine schema ∧ ¬ condition.IsUnreportable schema))
    (escapes_iff : failure.Escapes ↔ LetsOut schema filter.conditions) :
    Outcome schema filter (.error failure)

/-- Behind conditions that are compiled, only the first one that cannot be reported matters. -/
theorem compile_of_mapM {filter : Filter} {compiled : List CompiledCondition}
    (ok : filter.conditions.mapM (CompiledCondition.compile schema) = .ok compiled) :
    compile schema filter = match compiled.findSome? fun condition => condition.test.fault? with
      | some fault => .error (.ofRefusal fault)
      | none => .ok ⟨filter.logic, compiled, schema.target⟩ := by
  rw [compile, ok]
  rfl

theorem compile_outcome (schema : AttributeSchema) (filter : Filter) :
    Outcome schema filter (compile schema filter) := by
  cases compilesAll schema filter.conditions with
  | stopped split fine unfit escapes_iff fails =>
    rw [compile, fails]
    have member := split ▸ List.mem_append_right _ List.mem_cons_self
    exact .refused ⟨_, member, fun fine => unfit fine.1⟩
      (escapes_iff.trans (letsOut_iff_of_stopped split fine unfit).symm)
  | @bound compiled fine binds fault_iff compiles =>
    rw [compile_of_mapM compiles]
    cases found : compiled.findSome? fun condition => condition.test.fault? with
    | some fault =>
      obtain ⟨condition, member, faulty⟩ := List.exists_of_findSome?_eq_some found
      obtain ⟨bad, among, unreportable⟩ := fault_iff.mp ⟨condition, member, faulty ▸ rfl⟩
      refine .refused ⟨bad, among, fun fine => fine.2 unreportable⟩
        ⟨fun _ => .reporting fine among unreportable, fun _ => Failure.escapes_ofRefusal fault⟩
    | none =>
      have reportable : ∀ condition ∈ filter.conditions, ¬ condition.IsUnreportable schema := by
        intro condition member unreportable
        obtain ⟨bad, among, faulty⟩ := fault_iff.mpr ⟨condition, member, unreportable⟩
        rw [List.findSome?_eq_none_iff.mp found bad among] at faulty
        cases faulty
      exact .compiled (fun condition member => ⟨fine condition member, reportable condition member⟩)
        rfl rfl binds

/-- A filter compiles exactly if all its conditions are fine and can be reported. -/
theorem exists_compile_iff {filter : Filter} :
    (∃ predicate, compile schema filter = .ok predicate) ↔ ∀ condition ∈ filter.conditions,
      condition.IsFine schema ∧ ¬ condition.IsUnreportable schema := by
  have outcome := compile_outcome schema filter
  generalize compile schema filter = result at outcome
  cases outcome with
  | compiled fine => exact ⟨fun _ => fine, fun _ => ⟨_, rfl⟩⟩
  | refused unfit =>
    obtain ⟨condition, member, bad⟩ := unfit
    exact ⟨nofun, fun fine => absurd (fine condition member) bad⟩

/-- A compiled filter is bound, condition by condition. -/
theorem binds_of_compile {filter : Filter} {predicate : Predicate}
    (ok : compile schema filter = .ok predicate) :
    predicate.logic = filter.logic ∧ predicate.target = schema.target ∧
      List.Forall₂ (Condition.IsBound schema) filter.conditions predicate.conditions := by
  have outcome := compile_outcome schema filter
  rw [ok] at outcome
  cases outcome with
  | compiled _ logic_eq target_eq binds => exact ⟨logic_eq, target_eq, binds⟩

/-- A filter is refused with something else than a violation exactly if it lets that out. -/
theorem escapes_iff {filter : Filter} :
    (∃ failure, compile schema filter = .error failure ∧ failure.Escapes) ↔
      LetsOut schema filter.conditions := by
  have outcome := compile_outcome schema filter
  generalize compile schema filter = result at outcome
  cases outcome with
  | compiled fine =>
    rw [letsOut_iff_of_fine fun condition member => (fine condition member).1]
    exact ⟨nofun, fun ⟨condition, member, bad⟩ => absurd bad (fine condition member).2⟩
  | refused _ escapes_iff =>
    refine ⟨?_, fun letsOut => ⟨_, rfl, escapes_iff.mpr letsOut⟩⟩
    rintro ⟨_, ⟨⟩, escapes⟩
    exact escapes_iff.mp escapes

end Predicate

/-! ## Filters as they are submitted -/

/-- A schema with a list of tags and a day on which something expires. -/
def sampleSchema : AttributeSchema :=
  ⟨"acme", .customer, [⟨"tags", .array, false, none, none, none, none, false⟩,
    ⟨"expiry", .date, false, none, none, none, none, false⟩]⟩

/-- A filter that counts tags under a list of relations, where one relation is expected. -/
def sampleListedRelation : Value :=
  .record [("conditions", .list [.record [("key", .text "tags"), ("operator", .text "count"),
    ("value", .record [("operator", .list [.text "equals"]), ("value", .int 1)])]])]

end Herald
