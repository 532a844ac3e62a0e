import Herald.Proofs.Evaluation

/-! # Verdicts

What one operator says of one attribute of a target: its operand is read, and the test that it makes
is put to the stored value. The operators of a kind come in groups of alternatives, which expect
their operand in the same form.
-/

namespace Herald

/-! ## Orders -/

namespace Relation

/-- The relations of a group of alternatives, one of which allows an order. -/
def IsPartition (relations : List Relation) : Prop :=
  ∀ order, (relations.map (allows · order)).count true = 1

@[simp] theorem isPartition_rising : IsPartition [.less, .equal, .greater] := by
  rintro (_ | _ | _) <;> rfl

@[simp] theorem isPartition_falling : IsPartition [.greater, .equal, .less] := by
  rintro (_ | _ | _) <;> rfl

@[simp] theorem isPartition_equal : IsPartition [.equal, .different] := by
  rintro (_ | _ | _) <;> rfl

@[simp] theorem isPartition_less : IsPartition [.less, .atLeast] := by
  rintro (_ | _ | _) <;> rfl

@[simp] theorem isPartition_greater : IsPartition [.greater, .atMost] := by
  rintro (_ | _ | _) <;> rfl

/-- The relation that allows what another one does not. -/
def negation : Relation → Relation
  | .equal => .different
  | .different => .equal
  | .greater => .atMost
  | .less => .atLeast
  | .atLeast => .less
  | .atMost => .greater

theorem isPartition_negation (relation : Relation) : IsPartition [relation, relation.negation] := by
  cases relation <;> rintro (_ | _ | _) <;> rfl

theorem allows_atLeast_swap (order : Ordering) : atLeast.allows order = atMost.allows order.swap := by
  cases order <;> rfl

end Relation

namespace Decimal

theorem compareMagnitude_swap (a b : ℕ) (e f : ℤ) :
    (compareMagnitude a e b f).swap = compareMagnitude b f a e := by
  unfold compareMagnitude
  simp only [or_comm (a := b = 0), min_comm f e, ne_comm (a := adjusted b f)]
  split
  · exact Nat.compare_swap a b
  · split
    · exact Int.compare_swap _ _
    · exact Nat.compare_swap _ _

theorem order?_finite_swap (n m : Bool) (a b : ℕ) (e f : ℤ) :
    ((finite n a e).order? (finite m b f)).map Ordering.swap =
      (finite m b f).order? (finite n a e) := by
  by_cases zero : a = 0 <;> by_cases other : b = 0 <;> cases n <;> cases m <;>
    simp [order?, zero, other, compareMagnitude_swap]

/-- The order of two numbers the other way round. -/
theorem order?_swap (a b : Decimal) : (a.order? b).map Ordering.swap = b.order? a := by
  cases a with
  | nan => cases b <;> rfl
  | infinite n =>
    cases b with
    | nan => rfl
    | infinite m => cases n <;> cases m <;> rfl
    | finite => cases n <;> rfl
  | finite n a e =>
    cases b with
    | nan => rfl
    | infinite m => cases m <;> rfl
    | finite m b f => exact order?_finite_swap n m a b e f

theorem exists_order? {a b : Decimal} (finite : a.isFinite = true) (also : b.isFinite = true) :
    ∃ order, a.order? b = some order := by
  rw [← Option.ne_none_iff_exists', Ne, order?_eq_none_iff]
  cases a <;> cases b <;> simp_all [isFinite, isNaN]

end Decimal

theorem Relation.holdsOfNumbers_of_order {a b : Decimal} {order : Ordering}
    (ordered : a.order? b = some order) (relation : Relation) :
    relation.holdsOfNumbers a b = .ok (relation.allows order) := by
  simp only [holdsOfNumbers, ordered]

/-! ## Verdicts -/

/-- The filter that applies one operator to one attribute. -/
def Operator.on (operator : Operator) (key : String) (operand : Value) : Filter :=
  ⟨.all, [⟨key, operator.name, operand⟩]⟩

theorem Predicate.holds_single (compiled : CompiledCondition) (target : TargetKind)
    (values : Fields) (today : Date) :
    holds ⟨.all, [compiled], target⟩ values today = compiled.holds values today := by
  change (compiled.holds values today >>= fun holds => if holds then .ok true else .ok false) = _
  cases compiled.holds values today with
  | error refusal => rfl
  | ok holds => cases holds <;> rfl

namespace AttributeSchema

/-- Whether an operator of an attribute accepts an operand. -/
def Accepts (schema : AttributeSchema) (key : String) (operator : Operator) (operand : Value) :
    Prop :=
  ∃ predicate, Predicate.compile schema (operator.on key operand) = .ok predicate

/-- What an operator of an attribute says of a target's values on a day. -/
def verdict (schema : AttributeSchema) (key : String) (values : Fields) (today : Date)
    (operator : Operator) (operand : Value) : Except Failure Bool := do
  let predicate ← Predicate.compile schema (operator.on key operand)
  (predicate.holds values today).mapError .ofRefusal

variable {schema : AttributeSchema} {key : String} {spec : AttributeSpec} {operator : Operator}
  {operand : Value} {values : Fields} {today : Date}

/-- An operand is accepted if it has the form of the operator, and can be read and reported. -/
theorem accepts_iff (declared : schema.get? key = some spec)
    (allowed : operator ∈ spec.kind.operators) :
    schema.Accepts key operator operand ↔ (operator.form spec.kind).Admits operand ∧
      ¬ (operator.form spec.kind).Breaks operand ∧
        ¬ (operator.form spec.kind).Unreportable operand := by
  have applies : Condition.Applies schema ⟨key, operator.name, operand⟩ spec operator :=
    ⟨declared, rfl, allowed⟩
  have only : (operator.on key operand).conditions = [⟨key, operator.name, operand⟩] := rfl
  rw [Accepts, Predicate.exists_compile_iff, only, List.forall_mem_singleton, Condition.IsFine,
    Condition.IsLegal, Condition.Breaks, Condition.IsUnreportable, applies.exists_iff,
    applies.exists_iff, applies.exists_iff, and_assoc]

/-- What an accepted operand has been read as is what the verdict rests on. -/
theorem verdict_eq (declared : schema.get? key = some spec)
    (allowed : operator ∈ spec.kind.operators) (accepts : schema.Accepts key operator operand)
    (values : Fields) (today : Date) :
    ∃ test, Operand.test spec.kind operator operand = .ok test ∧
      schema.verdict key values today operator operand =
        ((⟨key, operator, spec.kind, test⟩ : CompiledCondition).holds values today).mapError
          .ofRefusal := by
  obtain ⟨⟨logic, conditions, target⟩, compiles⟩ := accepts
  obtain ⟨logic_eq, -, binds⟩ := Predicate.binds_of_compile compiles
  dsimp only at logic_eq binds
  subst logic_eq
  obtain ⟨⟨_, other, _, test⟩, rest, bound, none, rfl⟩ := List.forall₂_cons_left_iff.mp binds
  cases List.forall₂_nil_left_iff.mp none
  obtain ⟨rfl, named, ⟨also, found, rfl⟩, read⟩ := bound
  have same := Operator.ofName?_eq_some_iff.mpr named
  rw [Operator.ofName?_name] at same
  cases same
  cases declared.symm.trans found
  refine ⟨test, read, ?_⟩
  rw [verdict, compiles]
  exact congrArg (Except.mapError Failure.ofRefusal) (Predicate.holds_single _ target values today)

/-- A verdict, from what the operand has been read as. -/
theorem verdict_of_read (declared : schema.get? key = some spec)
    (allowed : operator ∈ spec.kind.operators) {test : Test}
    (reads : Operand.test spec.kind operator operand = .ok test) :
    schema.verdict key values today operator operand =
      match test.fault? with
      | some fault => .error (.ofRefusal fault)
      | none => ((⟨key, operator, spec.kind, test⟩ : CompiledCondition).holds values today).mapError
        .ofRefusal := by
  have keyed : spec.key = key := by simpa using List.find?_some declared
  have allows : spec.allows operator = true := List.contains_iff_mem.mpr allowed
  have compiled : CompiledCondition.compile schema ⟨key, operator.name, operand⟩ =
      .ok ⟨key, operator, spec.kind, test⟩ := by
    rw [CompiledCondition.compile, declared]
    dsimp only
    rw [Operator.ofName?_name]
    dsimp only
    rw [if_pos allows, reads, keyed]
  have only : (operator.on key operand).conditions.mapM (CompiledCondition.compile schema) =
      .ok [⟨key, operator, spec.kind, test⟩] := by
    change List.mapM _ [_] = _
    rw [List.mapM_cons, compiled]
    rfl
  rw [verdict, Predicate.compile_of_mapM only, List.findSome?_singleton]
  dsimp only
  cases test.fault? with
  | some fault => rfl
  | none =>
    exact congrArg (Except.mapError Failure.ofRefusal) (Predicate.holds_single _ _ values today)

/-- A verdict is what an operator's test says of a value that is there. -/
theorem verdict_of_stored {stored : Value} (declared : schema.get? key = some spec)
    (allowed : operator ∈ spec.kind.operators) (found : values.getOrNull key = stored)
    (present : stored ≠ .null) {test : Test}
    (reads : Operand.test spec.kind operator operand = .ok test) (reportable : test.fault? = none) :
    schema.verdict key values today operator operand =
      (test.holds stored today).mapError .ofRefusal := by
  have there : (values.getOrNull key).isNull = false :=
    Bool.eq_false_iff.mpr fun null => present (found.symm.trans (Operand.isNull_iff.mp null))
  rw [verdict_of_read declared allowed reads, reportable]
  dsimp only
  rw [CompiledCondition.holds]
  dsimp only
  rw [there, Bool.and_false, if_neg Bool.false_ne_true, found]

/-- Values that no reading of an operand tells apart have the same verdict. -/
theorem verdict_congr (declared : schema.get? key = some spec)
    (allowed : operator ∈ spec.kind.operators) {others : Fields}
    (same : ∀ test, Operand.test spec.kind operator operand = .ok test →
      (⟨key, operator, spec.kind, test⟩ : CompiledCondition).holds values today =
        (⟨key, operator, spec.kind, test⟩ : CompiledCondition).holds others today) :
    schema.verdict key values today operator operand =
      schema.verdict key others today operator operand := by
  cases compiles : Predicate.compile schema (operator.on key operand) with
  | error failure =>
    rw [verdict, verdict, compiles]
    rfl
  | ok predicate =>
    obtain ⟨test, read, -⟩ := verdict_eq declared allowed ⟨predicate, compiles⟩ values today
    rw [verdict_of_read declared allowed read, verdict_of_read declared allowed read,
      same test read]

/-- Of an attribute that is there, an operator says what its test says. -/
theorem verdict_of_present (declared : schema.get? key = some spec)
    (allowed : operator ∈ spec.kind.operators) (accepts : schema.Accepts key operator operand)
    (present : values.getOrNull key ≠ .null) {test : Test} {answer : Bool}
    (reads : Operand.test spec.kind operator operand = .ok test)
    (answers : test.holds (values.getOrNull key) today = .ok answer) :
    schema.verdict key values today operator operand = .ok answer := by
  obtain ⟨other, read, verdict⟩ := verdict_eq declared allowed accepts values today
  cases reads.symm.trans read
  have there : (values.getOrNull key).isNull = false :=
    Bool.eq_false_iff.mpr (mt Operand.isNull_iff.mp present)
  rw [verdict, CompiledCondition.holds]
  dsimp only
  rw [there, Bool.and_false, if_neg Bool.false_ne_true, answers]
  rfl

/-- Of an attribute that is not there, an operator that needs one says no. -/
theorem verdict_of_absent (declared : schema.get? key = some spec)
    (allowed : operator ∈ spec.kind.operators) (accepts : schema.Accepts key operator operand)
    (absent : values.getOrNull key = .null) (needs : operator.requiresPresence = true) :
    schema.verdict key values today operator operand = .ok false := by
  obtain ⟨test, -, verdict⟩ := verdict_eq declared allowed accepts values today
  rw [verdict, CompiledCondition.holds]
  dsimp only
  rw [absent, needs]
  rfl

end AttributeSchema

/-! ## Groups of alternatives -/

/-- The groups of alternatives among the operators of a kind. -/
def AttributeKind.alternatives : AttributeKind → List (List Operator)
  | .string => [[.equals, .notEquals], [.contains, .notContains]]
  | .number => [[.lessThan, .equals, .greaterThan], [.equals, .notEquals],
    [.lessThan, .greaterThanOrEqual], [.greaterThan, .lessThanOrEqual]]
  | .date => [[.expiresInDaysLt, .expiresInDaysEq, .expiresInDaysGt],
    [.expiresInDaysLt, .expiresInDaysGte], [.expiresInDaysGt, .expiresInDaysLte],
    [.daysAgoLt, .daysAgoEq, .daysAgoGt], [.daysAgoLt, .daysAgoGte], [.daysAgoGt, .daysAgoLte],
    [.before, .equalsDate, .after]]
  | .boolean => [[.isTrue, .isFalse]]
  | .enumeration => [[.equals, .notEquals], [.isIn, .notIn]]
  | .array => [[.anyOf, .noneOf], [.notEmpty, .isEmpty]]

/-- All operators of a group are allowed, and expect their operand in the same form. -/
theorem allowed_of_alternatives : ∀ kind : AttributeKind, ∀ group ∈ kind.alternatives,
    ∀ operator ∈ group, operator ∈ kind.operators ∧
      ∀ other ∈ group, other.form kind = operator.form kind := by
  rintro (_ | _ | _ | _ | _ | _) <;> decide

/-- All the verdicts are given, and exactly one of them is that the condition holds. -/
def ExactlyOne (verdicts : List (Except Failure Bool)) : Prop :=
  ∃ answers : List Bool, verdicts = answers.map .ok ∧ answers.count true = 1

theorem ExactlyOne.pair {first second : Except Failure Bool} {answer : Bool}
    (yes : first = .ok answer) (no : second = .ok !answer) : ExactlyOne [first, second] :=
  ⟨[answer, !answer], by rw [yes, no]; rfl, by cases answer <;> rfl⟩

/-- Relations that are a partition share out the verdicts on an order. -/
theorem ExactlyOne.of_relations {operators : List (Operator × Relation)} {order : Ordering}
    (partition : Relation.IsPartition (operators.map Prod.snd))
    {verdict : Operator → Except Failure Bool}
    (allows : ∀ entry ∈ operators, verdict entry.1 = .ok (entry.2.allows order)) :
    ExactlyOne ((operators.map Prod.fst).map verdict) := by
  refine ⟨(operators.map Prod.snd).map (Relation.allows · order), ?_, partition order⟩
  rw [List.map_map, List.map_map, List.map_map]
  exact List.map_congr_left allows

namespace AttributeSchema

variable {schema : AttributeSchema} {key : String} {spec : AttributeSpec} {operator : Operator}
  {operand : Value} {values : Fields} {today : Date}

/-- An operand that one operator of a group accepts is accepted by all of them. -/
theorem accepts_of_alternatives (declared : schema.get? key = some spec) {group : List Operator}
    (member : group ∈ spec.kind.alternatives) (among : operator ∈ group)
    (accepts : schema.Accepts key operator operand) {other : Operator} (also : other ∈ group) :
    schema.Accepts key other operand := by
  obtain ⟨allowed, forms⟩ := allowed_of_alternatives spec.kind group member operator among
  have fellow := (allowed_of_alternatives spec.kind group member other also).1
  rw [accepts_iff declared fellow, forms other also]
  exact (accepts_iff declared allowed).mp accepts

/-- An attribute that is there, with a value that the schema accepts. -/
structure Holds (schema : AttributeSchema) (key : String) (values : Fields) (spec : AttributeSpec)
    (stored : Value) : Prop where
  declared : schema.get? key = some spec
  found : values.getOrNull key = stored
  present : stored ≠ .null
  fits : spec.problem? stored = none

/-- A verdict is what the operator's test says of the stored value. -/
theorem Holds.verdict_of_test {stored : Value} (holds : schema.Holds key values spec stored)
    (allowed : operator ∈ spec.kind.operators) (accepts : schema.Accepts key operator operand)
    {test : Test} {answer : Bool} (reads : Operand.test spec.kind operator operand = .ok test)
    (answers : test.holds stored today = .ok answer) :
    schema.verdict key values today operator operand = .ok answer := by
  refine verdict_of_present holds.declared allowed accepts (holds.found ▸ holds.present) reads ?_
  rw [holds.found, answers]

/-- Operators that test one order by relations that are a partition share out their verdicts. -/
theorem Holds.share {stored : Value} (holds : schema.Holds key values spec stored)
    {entries : List (Operator × Relation)} (group : entries.map Prod.fst ∈ spec.kind.alternatives)
    (among : operator ∈ entries.map Prod.fst) (accepts : schema.Accepts key operator operand)
    (partition : Relation.IsPartition (entries.map Prod.snd)) (order : Ordering)
    (answers : ∀ entry ∈ entries, ∃ test, Operand.test spec.kind entry.1 operand = .ok test ∧
      test.holds stored today = .ok (entry.2.allows order)) :
    ExactlyOne ((entries.map Prod.fst).map fun operator =>
      schema.verdict key values today operator operand) := by
  refine ExactlyOne.of_relations partition fun entry (member : entry ∈ entries) =>
    (?_ : _ = Except.ok (entry.2.allows order))
  have also := List.mem_map_of_mem (f := Prod.fst) member
  obtain ⟨test, reads, answer⟩ := answers entry member
  exact holds.verdict_of_test (allowed_of_alternatives _ _ group _ also).1
    (accepts_of_alternatives holds.declared group among accepts also) reads answer

end AttributeSchema

/-! ## What the schema accepts -/

namespace AttributeSpec

variable {spec : AttributeSpec} {stored : Value}

theorem text_of_fits (kind : spec.kind = .string ∨ spec.kind = .enumeration)
    (fits : spec.problem? stored = none) : ∃ content, stored = .text content := by
  obtain ⟨_, kind, _, _, _, _, _, _⟩ := spec
  rcases kind with rfl | rfl <;> cases stored <;> simp_all [problem?]

theorem number_of_fits (kind : spec.kind = .number) (fits : spec.problem? stored = none) :
    ∃ number, stored.decimal? = some number := by
  obtain ⟨_, _, _, _, _, _, _, _⟩ := spec
  cases kind
  rw [← Option.isSome_iff_exists]
  by_contra unread
  simp [problem?, unread] at fits

theorem date_of_fits (kind : spec.kind = .date) (fits : spec.problem? stored = none) :
    ∃ date, stored.date? = some date := by
  obtain ⟨_, _, _, _, _, _, _, _⟩ := spec
  cases kind
  rw [← Option.isSome_iff_exists]
  by_contra unread
  simp [problem?, unread] at fits

theorem flag_of_fits (kind : spec.kind = .boolean) (fits : spec.problem? stored = none) :
    ∃ flag, stored = .bool flag := by
  obtain ⟨_, _, _, _, _, _, _, _⟩ := spec
  cases kind
  cases stored <;> simp_all [problem?]

theorem list_of_fits (kind : spec.kind = .array) (fits : spec.problem? stored = none) :
    ∃ items, stored = .list items := by
  obtain ⟨_, _, _, _, _, _, _, _⟩ := spec
  cases kind
  cases stored <;> simp_all [problem?]

end AttributeSpec

end Herald
