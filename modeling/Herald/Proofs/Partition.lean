import Herald.Proofs.Alternatives

/-! # Operators that share out the values

Of any value that the schema accepts, exactly one operator of a group of alternatives holds, so that
a tenant who splits an audience by them loses nobody and reaches nobody twice. Comparisons of a
count are shared out in the same way, and an absent attribute is outside of every group.
-/

namespace Herald

/-! ## Counts -/

/-- An operand that compares a count with a size by a relation. -/
def Value.CountsBy (operand : Value) (relation : Relation) (size : Value) : Prop :=
  ∃ (fields : Fields) (name : String), operand = .record fields ∧
    fields.getOrNull "operator" = .text name ∧
      Operand.countRelations.lookup name = some relation ∧ fields.getOrNull "value" = size

theorem Operand.count_of_countsBy {operand size : Value} {relation : Relation} {number : ℤ}
    (counts : operand.CountsBy relation size) (is : size.IsInteger number) :
    count operand = .ok (relation, number) := by
  obtain ⟨fields, name, rfl, named, known, rfl⟩ := counts
  have looked : (some name).bind (List.lookup · countRelations) = some relation := known
  have read : (Value.text name).asName.mapError OperandProblem.refused = .ok (some name) := rfl
  rw [count, named, read]
  dsimp only [bind, Except.bind]
  rw [looked]
  dsimp only
  rw [Value.isInteger_iff.mpr is]

theorem OperandForm.comparesCount_of_countsBy {operand size other : Value} {relation : Relation}
    (counts : operand.CountsBy relation size) : ComparesCount operand other ↔ size = other := by
  obtain ⟨fields, name, rfl, named, known, valued⟩ := counts
  constructor
  · rintro ⟨_, _, ⟨⟩, -, -, same⟩
    exact valued.symm.trans same
  · rintro rfl
    exact ⟨fields, name, rfl, named, Operand.mem_countNames_iff.mpr ⟨relation, known⟩, valued⟩

theorem OperandForm.not_namesNothing_of_countsBy {operand size : Value} {relation : Relation}
    (counts : operand.CountsBy relation size) : ¬ NamesNothing operand := by
  obtain ⟨fields, name, rfl, named, -⟩ := counts
  rintro ⟨_, fault, ⟨⟩, found⟩
  rw [named] at found
  cases found

namespace AttributeSchema

variable {schema : AttributeSchema} {key : String} {spec : AttributeSpec} {operand opposite : Value}
  {size : Value} {relation : Relation} {values : Fields} {today : Date}

/-- Whether a comparison of a count is accepted rests on the size alone. -/
theorem accepts_count_iff (declared : schema.get? key = some spec) (kind : spec.kind = .array)
    (counts : operand.CountsBy relation size) :
    schema.Accepts key .count operand ↔ (∃ number, size.IsInteger number) ∧
      ¬ size.RefusesInteger ∧
        ¬ ∃ number, size.IsInteger number ∧ Number.isOverlong number = true := by
  have allowed : Operator.count ∈ spec.kind.operators := by
    rw [kind]
    decide
  rw [accepts_iff declared allowed]
  simp only [Operator.form, OperandForm.Admits, OperandForm.Breaks, OperandForm.Unreportable,
    OperandForm.comparesCount_of_countsBy counts, OperandForm.not_namesNothing_of_countsBy counts,
    false_or, exists_and_left, exists_eq_left']

theorem Holds.verdict_of_count {items : List Value} {number : ℤ}
    (holds : schema.Holds key values spec (.list items)) (kind : spec.kind = .array)
    (counts : operand.CountsBy relation size) (accepts : schema.Accepts key .count operand)
    (is : size.IsInteger number) :
    schema.verdict key values today .count operand =
      .ok (relation.allows (compare (items.length : ℤ) number)) := by
  have allowed : Operator.count ∈ spec.kind.operators := by
    rw [kind]
    decide
  have read : Operand.test spec.kind .count operand = .ok (.count relation number) := by
    rw [kind, Operand.test, Operand.count_of_countsBy counts is]
    rfl
  exact holds.verdict_of_test allowed accepts read rfl

/-- A comparison of a count and its negation share out the lists. -/
theorem Holds.exactlyOne_of_counts {stored : Value} (holds : schema.Holds key values spec stored)
    (kind : spec.kind = .array) (counts : operand.CountsBy relation size)
    (countsOpposite : opposite.CountsBy relation.negation size)
    (accepts : schema.Accepts key .count operand) :
    ExactlyOne [schema.verdict key values today .count operand,
      schema.verdict key values today .count opposite] := by
  obtain ⟨items, rfl⟩ := AttributeSpec.list_of_fits kind holds.fits
  have sized := (accepts_count_iff holds.declared kind counts).mp accepts
  have also := (accepts_count_iff holds.declared kind countsOpposite).mpr sized
  obtain ⟨number, is⟩ := sized.1
  rw [holds.verdict_of_count kind counts accepts is,
    holds.verdict_of_count kind countsOpposite also is]
  exact ⟨_, rfl, relation.isPartition_negation (compare (items.length : ℤ) number)⟩

/-! ## Absent attributes -/

/-- Of an attribute that is absent or null, no operator holds but those that test for absence. -/
theorem verdict_of_null {operator : Operator} (declared : schema.get? key = some spec)
    (allowed : operator ∈ spec.kind.operators) (accepts : schema.Accepts key operator operand)
    (absent : values.getOrNull key = .null) :
    schema.verdict key values today operator operand =
      .ok (operator = .isEmpty ∨ operator = .isNotSet) := by
  cases needs : operator.requiresPresence with
  | true =>
    rw [verdict_of_absent declared allowed accepts absent needs]
    cases operator <;> first | rfl | cases needs
  | false =>
    obtain ⟨test, read, verdict⟩ := verdict_eq declared allowed accepts values today
    rw [verdict, CompiledCondition.holds]
    dsimp only
    rw [absent, needs]
    cases operator with
    | isNotSet =>
      obtain rfl : test = .absent := by
        revert read
        cases spec.kind <;> rintro ⟨⟩ <;> rfl
      rfl
    | isEmpty =>
      obtain rfl : test = .empty := by
        revert read
        cases spec.kind <;> rintro ⟨⟩ <;> rfl
      rfl
    | _ => cases needs

/-- How the operators of an attribute share out the values that it may have. -/
structure SharesOut (schema : AttributeSchema) (key : String) (spec : AttributeSpec)
    (values : Fields) (today : Date) : Prop where
  alternatives : ∀ group ∈ spec.kind.alternatives, ∀ operator ∈ group, ∀ operand,
    schema.Accepts key operator operand → operator.Suits spec.kind operand today →
      ExactlyOne (group.map fun operator => schema.verdict key values today operator operand)
  between : spec.kind = .number → ∀ operand low high, operand.field? "min" = some low →
    operand.field? "max" = some high → schema.Accepts key .between operand →
      Operator.between.Suits spec.kind operand today →
        ∃ above below, schema.verdict key values today .greaterThanOrEqual low = .ok above ∧
          schema.verdict key values today .lessThanOrEqual high = .ok below ∧
          schema.verdict key values today .between operand = .ok (above && below)
  counts : spec.kind = .array → ∀ relation size operand opposite,
    Value.CountsBy operand relation size → Value.CountsBy opposite relation.negation size →
      schema.Accepts key .count operand →
        ExactlyOne [schema.verdict key values today .count operand,
          schema.verdict key values today .count opposite]

end AttributeSchema

/-- Points and tags. -/
def samplePoints : AttributeSchema :=
  ⟨"acme", .customer, [⟨"points", .number, false, none, none, none, none, false⟩,
    ⟨"tags", .array, false, none, none, none, none, false⟩]⟩

/-- The tenth of March 2026. -/
def sampleDay : Date := ⟨739685, by decide, by decide⟩

/-- A value that is a text in a number of lists. -/
def sampleNested : ℕ → Value
  | 0 => .text "vip"
  | n + 1 => .list [sampleNested n]

theorem depth_sampleNested (n : ℕ) : (sampleNested n).depth = n + 1 := by
  induction n with
  | zero => rfl
  | succ n ih => rw [sampleNested, Value.depth, Value.itemsDepth, Value.itemsDepth, ih, Nat.max_zero]

/-- The name "vip" is wanted. -/
def sampleDeepOperand : Value :=
  .record [("property", .text "name"), ("values", .list [.text "vip"])]

end Herald
