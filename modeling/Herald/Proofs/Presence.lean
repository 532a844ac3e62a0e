import Herald.Proofs.Compilation

/-! # What a predicate sees

A predicate looks at a target through its keys alone, and a null attribute is for it an absent one:
attribute maps that show the same under its keys are one to it, refusals included. Where nothing is
there under any of its keys, only the tests for absence hold, and no condition is refused.
-/

namespace Herald

open Value (Refusal)

/-! ## Attributes that are there -/

namespace Fields

variable {values others : Fields} {name : String}

/-- The value of a name that is there and not null. -/
def present? (fields : Fields) (name : String) : Option Value :=
  (fields.get? name).filter fun value => !value.isNull

theorem getOrNull_eq (values : Fields) (name : String) :
    values.getOrNull name = (values.present? name).getD .null := by
  unfold getOrNull present?
  cases values.get? name with
  | none => rfl
  | some value => cases value <;> rfl

theorem getOrNull_of_absent (absent : values.present? name = none) :
    values.getOrNull name = .null := by
  rw [getOrNull_eq, absent]
  rfl

end Fields

namespace Predicate

variable {schema : AttributeSchema} {filter : Filter} {predicate : Predicate}
  {conditions : List CompiledCondition} {values others : Fields} {today : Date}

theorem mem_keys {key : String} :
    key ∈ predicate.keys ↔ ∃ condition ∈ predicate.conditions, condition.key = key := by
  rw [keys, List.mem_mergeSort, List.mem_eraseDups, List.mem_map]

/-- A filter that is compiled as it is submitted has been read first. -/
theorem compile_of_compileRaw {raw : Value} (ok : compileRaw schema raw = .ok predicate) :
    ∃ filter, compile schema filter = .ok predicate := by
  unfold compileRaw at ok
  split at ok
  · exact ⟨_, ok⟩
  · cases ok

/-! ## What conditions look at -/

theorem allHold_congr (same : ∀ condition ∈ conditions,
    condition.holds values today = condition.holds others today) :
    allHold values today conditions = allHold others today conditions := by
  induction conditions with
  | nil => rfl
  | cons condition rest ih =>
    obtain ⟨here, there⟩ := List.forall_mem_cons.mp same
    rw [allHold, allHold, here, ih there]

theorem anyHolds_congr (same : ∀ condition ∈ conditions,
    condition.holds values today = condition.holds others today) :
    anyHolds values today conditions = anyHolds others today conditions := by
  induction conditions with
  | nil => rfl
  | cons condition rest ih =>
    obtain ⟨here, there⟩ := List.forall_mem_cons.mp same
    rw [anyHolds, anyHolds, here, ih there]

/-- Attribute maps that agree on the keys of a predicate are the same to it. -/
theorem holds_congr (agree : ∀ key ∈ predicate.keys, values.present? key = others.present? key) :
    predicate.holds values today = predicate.holds others today := by
  have same : ∀ condition ∈ predicate.conditions,
      condition.holds values today = condition.holds others today := by
    intro condition member
    have shown := agree condition.key (mem_keys.mpr ⟨condition, member, rfl⟩)
    simp only [CompiledCondition.holds, Fields.getOrNull_eq, shown]
  rw [holds, holds, allHold_congr same, anyHolds_congr same]

end Predicate

/-! ## Nothing there -/

/-- Whether an operator tests for absence. -/
def Operator.testsAbsence (operator : Operator) : Bool :=
  operator = .isNotSet ∨ operator = .isEmpty

theorem Operator.requiresPresence_eq (operator : Operator) :
    operator.requiresPresence = !operator.testsAbsence := by
  cases operator <;> rfl

/-- A test for absence holds of null. -/
theorem Test.holds_of_absence {kind : AttributeKind} {operator : Operator} {operand : Value}
    {test : Test} (reads : Operand.test kind operator operand = .ok test)
    (absence : operator.testsAbsence = true) (today : Date) :
    test.holds .null today = .ok true := by
  obtain rfl | rfl := of_decide_eq_true absence
  · obtain rfl : test = .absent := by
      revert reads
      cases kind <;> rintro ⟨⟩ <;> rfl
    rfl
  · obtain rfl : test = .empty := by
      revert reads
      cases kind <;> rintro ⟨⟩ <;> rfl
    rfl

/-- Of an absent attribute a condition says whether it tests for absence. -/
theorem Condition.IsBound.holds_of_absent {schema : AttributeSchema} {condition : Condition}
    {compiled : CompiledCondition} {values : Fields} (bound : condition.IsBound schema compiled)
    (absent : values.present? compiled.key = none) (today : Date) :
    compiled.holds values today = .ok compiled.operator.testsAbsence := by
  rw [CompiledCondition.holds, Fields.getOrNull_of_absent absent, Operator.requiresPresence_eq]
  cases absence : compiled.operator.testsAbsence with
  | false => rfl
  | true =>
    rw [if_neg (by decide)]
    exact Test.holds_of_absence bound.test_eq absence today

namespace Predicate

variable {schema : AttributeSchema} {filter : Filter} {predicate : Predicate}
  {conditions : List CompiledCondition} {values : Fields} {today : Date}
  {answer : CompiledCondition → Bool}

theorem allHold_of_answers (answers : ∀ condition ∈ conditions,
    condition.holds values today = .ok (answer condition)) :
    allHold values today conditions = .ok (conditions.all answer) := by
  induction conditions with
  | nil => rfl
  | cons condition rest ih =>
    obtain ⟨here, there⟩ := List.forall_mem_cons.mp answers
    rw [allHold, here, ih there, List.all_cons]
    cases answer condition <;> rfl

theorem anyHolds_of_answers (answers : ∀ condition ∈ conditions,
    condition.holds values today = .ok (answer condition)) :
    anyHolds values today conditions = .ok (conditions.any answer) := by
  induction conditions with
  | nil => rfl
  | cons condition rest ih =>
    obtain ⟨here, there⟩ := List.forall_mem_cons.mp answers
    rw [anyHolds, here, ih there, List.any_cons]
    cases answer condition <;> rfl

/-- What is compiled from a filter has its conditions bound. -/
theorem exists_bound (ok : compile schema filter = .ok predicate) :
    ∀ compiled ∈ predicate.conditions, ∃ condition, Condition.IsBound schema condition compiled := by
  obtain ⟨-, -, binds⟩ := binds_of_compile ok
  generalize filter.conditions = written at binds
  generalize predicate.conditions = bound at binds
  induction binds with
  | nil => exact List.forall_mem_nil _
  | cons here _ ih => exact List.forall_mem_cons.mpr ⟨⟨_, here⟩, ih⟩

/-- Where nothing is there under any key, a predicate says which of its operators test for
absence. -/
theorem holds_of_absent (ok : compile schema filter = .ok predicate)
    (absent : ∀ key ∈ predicate.keys, values.present? key = none) :
    predicate.holds values today = .ok (predicate.conditions.isEmpty ||
      match predicate.logic with
      | .all => predicate.conditions.all (·.operator.testsAbsence)
      | .any => predicate.conditions.any (·.operator.testsAbsence)) := by
  have answers : ∀ condition ∈ predicate.conditions,
      condition.holds values today = .ok condition.operator.testsAbsence := by
    intro condition member
    obtain ⟨_, bound⟩ := exists_bound ok condition member
    exact bound.holds_of_absent (absent condition.key (mem_keys.mpr ⟨condition, member, rfl⟩)) today
  rw [holds]
  cases predicate.conditions.isEmpty with
  | true => rfl
  | false =>
    cases predicate.logic with
    | all => exact allHold_of_answers answers
    | any => exact anyHolds_of_answers answers

end Predicate

/-- A predicate sees only its keys, and null is absence: maps that agree on its keys once null counts
as missing have the same outcome, refusals included. Where nothing is there under any key, it has an
answer: yes where all operators test for absence, if all conditions have to hold, and where there is
no condition or one of them does, if any may. -/
theorem predicates_see_their_keys {schema : AttributeSchema} {filter : Filter}
    {predicate : Predicate} (compiled : Predicate.compile schema filter = .ok predicate)
    (today : Date) :
    (∀ values others : Fields,
      (∀ key ∈ predicate.keys, values.present? key = others.present? key) →
        predicate.holds values today = predicate.holds others today) ∧
      ∀ values : Fields, (∀ key ∈ predicate.keys, values.present? key = none) →
        ∃ answer, predicate.holds values today = .ok answer ∧
          (predicate.logic = .all → (answer = true ↔ ∀ condition ∈ predicate.conditions,
            condition.operator = .isNotSet ∨ condition.operator = .isEmpty)) ∧
          (predicate.logic = .any → (answer = true ↔ predicate.conditions = [] ∨
            ∃ condition ∈ predicate.conditions,
              condition.operator = .isNotSet ∨ condition.operator = .isEmpty)) := by
  refine ⟨fun values others agree => Predicate.holds_congr agree, fun values absent =>
    ⟨_, Predicate.holds_of_absent compiled absent, fun all => ?_, fun any => ?_⟩⟩
  · rw [all]
    cases conditions : predicate.conditions <;> simp [Operator.testsAbsence]
  · rw [any]
    simp [Operator.testsAbsence]

/-- A filter for a day that is over, or for tags that are missing. -/
def sampleAbsence : Value :=
  .record [("logic", .text "OR"), ("conditions", .list [
    .record [("key", .text "expiry"), ("operator", .text "before"), ("value", .text "2026-03-11")],
    .record [("key", .text "tags"), ("operator", .text "is_empty")]])]

/-- A target whose day is null is to that filter as one of which only a name is known: neither shows
anything under its keys, and it holds of both. -/
theorem absent_tags_accepted :
    ∃ predicate, Predicate.compileRaw sampleSchema sampleAbsence = .ok predicate ∧
      (∀ key ∈ predicate.keys,
        Fields.present? [("expiry", .null), ("score", .int 5)] key = none ∧
          Fields.present? [("name", .text "Ann")] key = none) ∧
      ∀ today, predicate.holds [("expiry", .null), ("score", .int 5)] today =
          predicate.holds [("name", .text "Ann")] today ∧
        predicate.holds [("name", .text "Ann")] today = .ok true := by
  obtain ⟨predicate, raw, any, bound⟩ : ∃ predicate,
      Predicate.compileRaw sampleSchema sampleAbsence = .ok predicate ∧ predicate.logic = .any ∧
        predicate.conditions.map (fun condition => (condition.key, condition.operator)) =
          [("expiry", .before), ("tags", .isEmpty)] := ⟨_, rfl, rfl, rfl⟩
  have absent : ∀ key ∈ predicate.keys,
      Fields.present? [("expiry", .null), ("score", .int 5)] key = none ∧
        Fields.present? [("name", .text "Ann")] key = none := by
    intro key member
    obtain ⟨condition, among, rfl⟩ := Predicate.mem_keys.mp member
    have named := List.mem_map_of_mem (f := fun bound => (bound.key, bound.operator)) among
    rw [bound] at named
    rcases List.mem_pair.mp named with is | is <;> rw [(Prod.mk.inj is).1] <;> exact ⟨rfl, rfl⟩
  obtain ⟨condition, among, is⟩ :=
    List.mem_map.mp (bound ▸ List.mem_pair.mpr (.inr rfl) :
      ("tags", Operator.isEmpty) ∈ predicate.conditions.map fun bound => (bound.key, bound.operator))
  obtain ⟨filter, compiled⟩ := Predicate.compile_of_compileRaw raw
  refine ⟨predicate, raw, absent, fun today => ?_⟩
  obtain ⟨seen, unseen⟩ := predicates_see_their_keys compiled today
  obtain ⟨answer, holds, -, ofAny⟩ := unseen [("name", .text "Ann")] fun key member =>
    (absent key member).2
  have accepts := (ofAny any).mpr (.inr ⟨condition, among, .inr (Prod.mk.inj is).2⟩)
  exact ⟨seen _ _ fun key member => (absent key member).1.trans (absent key member).2.symm,
    accepts ▸ holds⟩

end Herald
