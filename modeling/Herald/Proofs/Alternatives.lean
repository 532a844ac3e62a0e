import Mathlib.Tactic.FinCases
import Herald.Proofs.Verdicts

/-! # Alternatives

Of a group of alternatives exactly one operator holds. On numbers and dates a group is a partition
of the orders, which all of its tests look up in the same place; on other kinds one operator of a
pair denies the other.
-/

namespace Herald

/-! ## Numbers -/

/-- The groups of operators on numbers, with the relations that they test. -/
def numberGroups : List (List (Operator × Relation)) :=
  [[(.lessThan, .less), (.equals, .equal), (.greaterThan, .greater)],
    [(.equals, .equal), (.notEquals, .different)],
    [(.lessThan, .less), (.greaterThanOrEqual, .atLeast)],
    [(.greaterThan, .greater), (.lessThanOrEqual, .atMost)]]

theorem numberGroups_eq : numberGroups.map (List.map Prod.fst) = AttributeKind.number.alternatives :=
  rfl

theorem numberGroups_partition : ∀ entries ∈ numberGroups,
    Relation.IsPartition (entries.map Prod.snd) := by
  simp [numberGroups]

theorem numberGroups_test (operand : Value) : ∀ entries ∈ numberGroups, ∀ entry ∈ entries,
    Operand.test .number entry.1 operand = Operand.numberTest entry.2 operand := by
  intro entries member entry among
  fin_cases member <;> fin_cases among <;> rfl

theorem number_answers {operand stored : Value} {asked found : Decimal} {order : Ordering}
    (reads : operand.decimal? = some asked) (has : stored.decimal? = some found)
    (ordered : found.order? asked = some order) (relation : Relation) (today : Date) :
    ∃ test, Operand.numberTest relation operand = .ok test ∧
      test.holds stored today = .ok (relation.allows order) := by
  refine ⟨.number relation asked, ?_, ?_⟩
  · rw [Operand.numberTest, Operand.number, reads]
    rfl
  · rw [Test.holds, has]
    exact Relation.holdsOfNumbers_of_order ordered relation

/-! ## Dates -/

/-- Whether an operator compares with a day that has gone by. -/
def Operator.looksBack : Operator → Bool
  | .daysAgoEq | .daysAgoGt | .daysAgoGte | .daysAgoLt | .daysAgoLte => true
  | _ => false

/-- The groups of operators on days to come, with the relations that they test. -/
def inDaysGroups : List (List (Operator × Relation)) :=
  [[(.expiresInDaysLt, .less), (.expiresInDaysEq, .equal), (.expiresInDaysGt, .greater)],
    [(.expiresInDaysLt, .less), (.expiresInDaysGte, .atLeast)],
    [(.expiresInDaysGt, .greater), (.expiresInDaysLte, .atMost)]]

/-- The groups of operators on days gone by: more days ago is an earlier date. -/
def daysAgoGroups : List (List (Operator × Relation)) :=
  [[(.daysAgoLt, .greater), (.daysAgoEq, .equal), (.daysAgoGt, .less)],
    [(.daysAgoLt, .greater), (.daysAgoGte, .atMost)],
    [(.daysAgoGt, .less), (.daysAgoLte, .atLeast)]]

/-- The group of operators on calendar dates. -/
def datedGroups : List (List (Operator × Relation)) :=
  [[(.before, .less), (.equalsDate, .equal), (.after, .greater)]]

theorem dateGroups_eq :
    (inDaysGroups ++ daysAgoGroups ++ datedGroups).map (List.map Prod.fst) =
      AttributeKind.date.alternatives :=
  rfl

theorem dateGroups_partition : ∀ entries ∈ inDaysGroups ++ daysAgoGroups ++ datedGroups,
    Relation.IsPartition (entries.map Prod.snd) := by
  simp [inDaysGroups, daysAgoGroups, datedGroups]

theorem inDaysGroups_test (operand : Value) : ∀ entries ∈ inDaysGroups, ∀ entry ∈ entries,
    Operand.test .date entry.1 operand = Operand.inDaysTest entry.2 operand := by
  intro entries member entry among
  fin_cases member <;> fin_cases among <;> rfl

theorem daysAgoGroups_test (operand : Value) : ∀ entries ∈ daysAgoGroups, ∀ entry ∈ entries,
    Operand.test .date entry.1 operand = Operand.daysAgoTest entry.2 operand := by
  intro entries member entry among
  fin_cases member <;> fin_cases among <;> rfl

theorem datedGroups_test (operand : Value) : ∀ entries ∈ datedGroups, ∀ entry ∈ entries,
    Operand.test .date entry.1 operand = Operand.datedTest entry.2 operand := by
  intro entries member entry among
  fin_cases member
  fin_cases among <;> rfl

theorem inDaysGroups_form : ∀ entries ∈ inDaysGroups, ∀ operator ∈ entries.map Prod.fst,
    operator.form .date = .days ∧ operator.looksBack = false := by
  decide

theorem daysAgoGroups_form : ∀ entries ∈ daysAgoGroups, ∀ operator ∈ entries.map Prod.fst,
    operator.form .date = .days ∧ operator.looksBack = true := by
  decide

theorem datedGroups_form : ∀ entries ∈ datedGroups, ∀ operator ∈ entries.map Prod.fst,
    operator.form .date = .date := by
  decide

theorem Date.exists_addDays? {today : Date} {days : ℤ} (inside : ¬ today.IsOutside days) :
    ∃ day, today.addDays? days = some day := by
  rwa [← Option.ne_none_iff_exists', Ne, Date.addDays?_eq_none_iff]

theorem inDays_answers {operand stored : Value} {days : ℤ} {today day date : Date}
    (reads : (operand.part "days").IsInteger days) (there : today.addDays? days = some day)
    (has : stored.date? = some date) (relation : Relation) :
    ∃ test, Operand.inDaysTest relation operand = .ok test ∧
      test.holds stored today = .ok (relation.allows (compare date.day day.day)) := by
  refine ⟨.inDays relation days, ?_, ?_⟩
  · rw [Operand.inDaysTest, Operand.days_eq_ok_iff.mpr reads]
    rfl
  · rw [Test.holds, Test.againstDate, has, Test.daysAfter, Date.later, there]
    rfl

theorem daysAgo_answers {operand stored : Value} {days : ℤ} {today day date : Date}
    (reads : (operand.part "days").IsInteger days) (there : today.addDays? (-days) = some day)
    (has : stored.date? = some date) (relation : Relation) :
    ∃ test, Operand.daysAgoTest relation operand = .ok test ∧
      test.holds stored today = .ok (relation.allows (compare date.day day.day)) := by
  refine ⟨.daysAgo relation days, ?_, ?_⟩
  · rw [Operand.daysAgoTest, Operand.days_eq_ok_iff.mpr reads]
    rfl
  · rw [Test.holds, Test.againstDate, has, Test.daysBefore, Date.earlier, there]
    rfl

theorem dated_answers {operand stored : Value} {day date : Date} (reads : operand.date? = some day)
    (has : stored.date? = some date) (relation : Relation) (today : Date) :
    ∃ test, Operand.datedTest relation operand = .ok test ∧
      test.holds stored today = .ok (relation.allows (compare date.day day.day)) := by
  refine ⟨.dated relation day, ?_, ?_⟩
  · rw [Operand.datedTest, Operand.date, reads]
    rfl
  · rw [Test.holds, Test.againstDate, has]
    rfl

/-! ## What is left out -/

/-- A value that is a finite number if it is a number at all. -/
def Value.IsFinite (value : Value) : Prop :=
  ∀ number, value.decimal? = some number → number.isFinite = true

/-- A list none of whose records has a property that is too deep to be written. -/
def Value.HasWritableMembers (stored : Value) : Prop :=
  ∀ items, stored = .list items → ∀ name, ¬ HasDeepMember name items

/-- The operands of which no operator of a group is refused: numbers are finite, the day that is
compared with exists, and the name of a property can be one. -/
def Operator.Suits (operator : Operator) (kind : AttributeKind) (operand : Value) (today : Date) :
    Prop :=
  match operator.form kind with
  | .number => operand.IsFinite
  | .range => ∀ name ∈ ["min", "max"], ∀ bound, operand.field? name = some bound → bound.IsFinite
  | .days => ∀ days, (operand.part "days").IsInteger days →
    ¬ today.IsOutside (if operator.looksBack then -days else days)
  | .members => ∀ name, operand.field? "property" = some name → name.nameFault? = none
  | _ => True

/-- A property that is looked for can be a name. -/
theorem Operand.nameable_of_membership {operand property : Value} {wanted : List String}
    (suits : ∀ name, operand.field? "property" = some name → name.nameFault? = none)
    (read : membership operand = .ok (property, wanted)) : property.nameFault? = none := by
  rw [property_of_membership read]
  cases found : operand.field? "property" with
  | none => rfl
  | some name => exact suits name found

/-- The texts of a list can be looked at. -/
theorem Test.exists_elementTexts {items : List Value} {property : Value}
    (writable : (Value.list items).HasWritableMembers) (nameable : property.nameFault? = none) :
    ∃ texts, elementTexts property items = .ok texts := by
  cases shown : elementTexts property items with
  | ok texts => exact ⟨texts, rfl⟩
  | error refusal =>
    rcases fails_elementTexts.mp ⟨refusal, shown⟩ with ⟨⟨fault, found⟩, -⟩ | deep
    · exact nomatch nameable.symm.trans found
    · exact absurd deep (writable items rfl property)

namespace AttributeSchema.Holds

variable {schema : AttributeSchema} {key : String} {spec : AttributeSpec} {operator : Operator}
  {operand stored : Value} {values : Fields} {today : Date} {group : List Operator}

theorem exactlyOne_of_number (holds : schema.Holds key values spec stored)
    (kind : spec.kind = .number) (finite : stored.IsFinite)
    (member : group ∈ spec.kind.alternatives) (among : operator ∈ group)
    (accepts : schema.Accepts key operator operand) (suits : operator.Suits spec.kind operand today) :
    ExactlyOne (group.map fun operator => schema.verdict key values today operator operand) := by
  have numbers : ∀ group ∈ AttributeKind.number.alternatives, ∀ operator ∈ group,
      operator.form .number = .number := by decide
  have allowed := (allowed_of_alternatives _ group member operator among).1
  have form : operator.form spec.kind = .number := by
    rw [kind] at member ⊢
    exact numbers group member operator among
  have admits := ((accepts_iff holds.declared allowed).mp accepts).1
  rw [form] at admits
  obtain ⟨asked, reads⟩ := admits
  have asked_finite : asked.isFinite = true := by
    rw [Operator.Suits, form] at suits
    exact suits asked reads
  obtain ⟨found, has⟩ := AttributeSpec.number_of_fits kind holds.fits
  obtain ⟨order, ordered⟩ := Decimal.exists_order? (finite found has) asked_finite
  have shape := member
  rw [kind, ← numberGroups_eq, List.mem_map] at shape
  obtain ⟨entries, listed, rfl⟩ := shape
  refine holds.share member among accepts (numberGroups_partition entries listed) order ?_
  intro entry here
  rw [kind, numberGroups_test operand entries listed entry here]
  exact number_answers reads has ordered entry.2 today

/-- Operators that compare with a day so many days away share out the dates. -/
theorem exactlyOne_of_days (holds : schema.Holds key values spec stored) (kind : spec.kind = .date)
    {entries : List (Operator × Relation)} {read : Relation → Value → Operand.Read Test} {back : Bool}
    (member : entries.map Prod.fst ∈ spec.kind.alternatives)
    (among : operator ∈ entries.map Prod.fst) (accepts : schema.Accepts key operator operand)
    (suits : operator.Suits spec.kind operand today)
    (partition : Relation.IsPartition (entries.map Prod.snd))
    (form : operator.form .date = .days ∧ operator.looksBack = back)
    (test : ∀ entry ∈ entries, Operand.test .date entry.1 operand = read entry.2 operand)
    (answers : ∀ {days : ℤ} {day date : Date}, (operand.part "days").IsInteger days →
      today.addDays? (if back then -days else days) = some day → stored.date? = some date →
        ∀ relation, ∃ test, read relation operand = .ok test ∧
          test.holds stored today = .ok (relation.allows (compare date.day day.day))) :
    ExactlyOne ((entries.map Prod.fst).map fun operator =>
      schema.verdict key values today operator operand) := by
  have allowed := (allowed_of_alternatives _ _ member operator among).1
  have admits := ((accepts_iff holds.declared allowed).mp accepts).1
  rw [kind, form.1] at admits
  rw [Operator.Suits, kind, form.1, form.2] at suits
  obtain ⟨days, reads⟩ := admits
  obtain ⟨day, there⟩ := Date.exists_addDays? (suits days reads)
  obtain ⟨date, has⟩ := AttributeSpec.date_of_fits kind holds.fits
  refine holds.share member among accepts partition (compare date.day day.day) ?_
  intro entry here
  rw [kind, test entry here]
  exact answers reads there has entry.2

theorem exactlyOne_of_date (holds : schema.Holds key values spec stored)
    (kind : spec.kind = .date) (member : group ∈ spec.kind.alternatives) (among : operator ∈ group)
    (accepts : schema.Accepts key operator operand) (suits : operator.Suits spec.kind operand today) :
    ExactlyOne (group.map fun operator => schema.verdict key values today operator operand) := by
  have shape := member
  rw [kind, ← dateGroups_eq, List.mem_map] at shape
  obtain ⟨entries, listed, rfl⟩ := shape
  have partition := dateGroups_partition entries listed
  rcases List.mem_append.mp listed with days | dated
  · rcases List.mem_append.mp days with coming | gone
    · exact holds.exactlyOne_of_days kind member among accepts suits partition
        (inDaysGroups_form entries coming operator among)
        (inDaysGroups_test operand entries coming) inDays_answers
    · exact holds.exactlyOne_of_days kind member among accepts suits partition
        (daysAgoGroups_form entries gone operator among)
        (daysAgoGroups_test operand entries gone) daysAgo_answers
  · have allowed := (allowed_of_alternatives _ _ member operator among).1
    have admits := ((accepts_iff holds.declared allowed).mp accepts).1
    rw [kind, datedGroups_form entries dated operator among] at admits
    obtain ⟨day, reads⟩ := admits
    obtain ⟨date, has⟩ := AttributeSpec.date_of_fits kind holds.fits
    refine holds.share member among accepts partition (compare date.day day.day) ?_
    intro entry here
    rw [kind, datedGroups_test operand entries dated entry here]
    exact dated_answers reads has entry.2 today

/-- Two operators whose tests answer the opposite share out their verdicts. -/
theorem exactlyOne_of_pair (holds : schema.Holds key values spec stored) {yes no : Operator}
    (member : [yes, no] ∈ spec.kind.alternatives) (among : operator ∈ [yes, no])
    (accepts : schema.Accepts key operator operand) (test opposite : Test) (answer : Bool)
    (reads : Operand.test spec.kind yes operand = .ok test)
    (readsOpposite : Operand.test spec.kind no operand = .ok opposite)
    (answers : test.holds stored today = .ok answer)
    (denies : opposite.holds stored today = .ok !answer) :
    ExactlyOne ([yes, no].map fun operator => schema.verdict key values today operator operand) := by
  have first : yes ∈ [yes, no] := List.mem_cons_self
  have second : no ∈ [yes, no] := List.mem_cons_of_mem yes List.mem_cons_self
  exact ExactlyOne.pair
    (holds.verdict_of_test (allowed_of_alternatives _ _ member yes first).1
      (accepts_of_alternatives holds.declared member among accepts first) reads answers)
    (holds.verdict_of_test (allowed_of_alternatives _ _ member no second).1
      (accepts_of_alternatives holds.declared member among accepts second) readsOpposite denies)

/-- An operand of an operator of a group is read in the form of the group. -/
theorem read_of_accepts {α : Type} (holds : schema.Holds key values spec stored)
    (allowed : operator ∈ spec.kind.operators) (accepts : schema.Accepts key operator operand)
    {form : OperandForm} (same : operator.form spec.kind = form) {read : Operand.Read α}
    (settles : Operand.Settles read (form.Admits operand) (form.Breaks operand)) :
    ∃ result, read = .ok result := by
  obtain ⟨admits, sound, -⟩ := (accepts_iff holds.declared allowed).mp accepts
  exact settles.ok_iff.mpr ⟨same ▸ admits, same ▸ sound⟩

/-- Two operators on texts, of which one denies the other, share out the texts. -/
theorem exactlyOne_of_text (holds : schema.Holds key values spec stored)
    (kind : spec.kind = .string ∨ spec.kind = .enumeration) {yes no : Operator}
    {relation opposite : TextRelation} (member : [yes, no] ∈ spec.kind.alternatives)
    (among : operator ∈ [yes, no]) (form : operator.form spec.kind = .text)
    (accepts : schema.Accepts key operator operand)
    (test : Operand.test spec.kind yes operand = Operand.textTest relation operand)
    (testOpposite : Operand.test spec.kind no operand = Operand.textTest opposite operand)
    (denies : ∀ content text, opposite.holds content text = !relation.holds content text) :
    ExactlyOne ([yes, no].map fun operator => schema.verdict key values today operator operand) := by
  have allowed := (allowed_of_alternatives _ _ member operator among).1
  obtain ⟨text, read⟩ := holds.read_of_accepts allowed accepts form (Operand.text_settles operand)
  obtain ⟨content, rfl⟩ := AttributeSpec.text_of_fits kind holds.fits
  have reads : ∀ relation, Operand.textTest relation operand = .ok (.text relation text) := by
    intro relation
    rw [Operand.textTest, read]
    rfl
  have answers : ∀ relation, Test.holds (.text relation text) (.text content) today =
      .ok (relation.holds content text) := fun _ => rfl
  exact holds.exactlyOne_of_pair member among accepts _ _ _ (test.trans (reads relation))
    (testOpposite.trans (reads opposite)) (answers relation)
    (by rw [answers opposite, denies content text])

theorem exactlyOne_of_string (holds : schema.Holds key values spec stored)
    (kind : spec.kind = .string) (member : group ∈ spec.kind.alternatives) (among : operator ∈ group)
    (accepts : schema.Accepts key operator operand) :
    ExactlyOne (group.map fun operator => schema.verdict key values today operator operand) := by
  have texts : ∀ group ∈ AttributeKind.string.alternatives, ∀ operator ∈ group,
      operator.form .string = .text := by decide
  have form : operator.form spec.kind = .text := by
    rw [kind] at member ⊢
    exact texts group member operator among
  have either : group = [.equals, .notEquals] ∨ group = [.contains, .notContains] := by
    simpa [kind, AttributeKind.alternatives] using member
  rcases either with rfl | rfl
  · exact holds.exactlyOne_of_text (.inl kind) member among form accepts
      (by rw [kind]; rfl : _ = Operand.textTest .same operand)
      (by rw [kind]; rfl : _ = Operand.textTest .different operand) fun _ _ => rfl
  · exact holds.exactlyOne_of_text (.inl kind) member among form accepts
      (by rw [kind]; rfl : _ = Operand.textTest .contains operand)
      (by rw [kind]; rfl : _ = Operand.textTest .lacks operand) fun _ _ => rfl

theorem exactlyOne_of_enumeration (holds : schema.Holds key values spec stored)
    (kind : spec.kind = .enumeration) (member : group ∈ spec.kind.alternatives)
    (among : operator ∈ group) (accepts : schema.Accepts key operator operand) :
    ExactlyOne (group.map fun operator => schema.verdict key values today operator operand) := by
  have either : group = [.equals, .notEquals] ∨ group = [.isIn, .notIn] := by
    simpa [kind, AttributeKind.alternatives] using member
  rcases either with rfl | rfl
  · have texts : ∀ operator ∈ [Operator.equals, .notEquals],
        operator.form .enumeration = .text := by decide
    have form : operator.form spec.kind = .text := kind ▸ texts operator among
    exact holds.exactlyOne_of_text (.inr kind) member among form accepts
      (by rw [kind]; rfl : _ = Operand.textTest .same operand)
      (by rw [kind]; rfl : _ = Operand.textTest .different operand) fun _ _ => rfl
  · have options : ∀ operator ∈ [Operator.isIn, .notIn],
        operator.form .enumeration = .options := by decide
    have form : operator.form spec.kind = .options := kind ▸ options operator among
    have allowed := (allowed_of_alternatives _ _ member operator among).1
    obtain ⟨wanted, read⟩ := holds.read_of_accepts allowed accepts form
      (Operand.options_settles operand)
    obtain ⟨content, rfl⟩ := AttributeSpec.text_of_fits (.inr kind) holds.fits
    have tests : Operand.test spec.kind .isIn operand = .ok (.oneOf wanted) ∧
        Operand.test spec.kind .notIn operand = .ok (.noneOf wanted) := by
      rw [kind, Operand.test, Operand.test, read]
      exact ⟨rfl, rfl⟩
    exact holds.exactlyOne_of_pair member among accepts _ _ (wanted.contains content) tests.1 tests.2
      rfl rfl

theorem exactlyOne_of_boolean (holds : schema.Holds key values spec stored)
    (kind : spec.kind = .boolean) (member : group ∈ spec.kind.alternatives) (among : operator ∈ group)
    (accepts : schema.Accepts key operator operand) :
    ExactlyOne (group.map fun operator => schema.verdict key values today operator operand) := by
  obtain rfl : group = [.isTrue, .isFalse] := by
    simpa [kind, AttributeKind.alternatives] using member
  obtain ⟨flag, rfl⟩ := AttributeSpec.flag_of_fits kind holds.fits
  exact holds.exactlyOne_of_pair member among accepts .isTrue .isFalse flag (by rw [kind]; rfl)
    (by rw [kind]; rfl) rfl rfl

theorem exactlyOne_of_array (holds : schema.Holds key values spec stored)
    (kind : spec.kind = .array) (writable : stored.HasWritableMembers)
    (member : group ∈ spec.kind.alternatives) (among : operator ∈ group)
    (accepts : schema.Accepts key operator operand) (suits : operator.Suits spec.kind operand today) :
    ExactlyOne (group.map fun operator => schema.verdict key values today operator operand) := by
  have either : group = [.anyOf, .noneOf] ∨ group = [.notEmpty, .isEmpty] := by
    simpa [kind, AttributeKind.alternatives] using member
  obtain ⟨items, rfl⟩ := AttributeSpec.list_of_fits kind holds.fits
  rcases either with rfl | rfl
  · have members : ∀ operator ∈ [Operator.anyOf, .noneOf],
        operator.form .array = .members := by decide
    have form : operator.form spec.kind = .members := kind ▸ members operator among
    have allowed := (allowed_of_alternatives _ _ member operator among).1
    obtain ⟨⟨property, wanted⟩, read⟩ := holds.read_of_accepts allowed accepts form
      (Operand.membership_settles operand)
    rw [Operator.Suits, form] at suits
    obtain ⟨texts, shown⟩ := Test.exists_elementTexts writable
      (Operand.nameable_of_membership suits read)
    have tests : Operand.test spec.kind .anyOf operand = .ok (.anyMember property wanted) ∧
        Operand.test spec.kind .noneOf operand = .ok (.noMember property wanted) := by
      rw [kind, Operand.test, Operand.test, Operand.memberTest, Operand.memberTest, read]
      exact ⟨rfl, rfl⟩
    refine holds.exactlyOne_of_pair member among accepts _ _ (texts.any (wanted.contains ·)) tests.1
      tests.2 ?_ ?_
    · change (Test.elementTexts property items).map _ = _
      rw [shown]
      rfl
    · change (Test.elementTexts property items).map _ = _
      rw [shown]
      rfl
  · exact holds.exactlyOne_of_pair member among accepts .filled .empty (!items.isEmpty)
      (by rw [kind]; rfl) (by rw [kind]; rfl) rfl (by rw [Bool.not_not]; rfl)

/-- Of a group of alternatives exactly one holds. -/
theorem exactlyOne (holds : schema.Holds key values spec stored)
    (finite : spec.kind = .number → stored.IsFinite) (writable : stored.HasWritableMembers)
    (member : group ∈ spec.kind.alternatives) (among : operator ∈ group)
    (accepts : schema.Accepts key operator operand) (suits : operator.Suits spec.kind operand today) :
    ExactlyOne (group.map fun operator => schema.verdict key values today operator operand) := by
  cases kind : spec.kind with
  | string => exact holds.exactlyOne_of_string kind member among accepts
  | number => exact holds.exactlyOne_of_number kind (finite kind) member among accepts suits
  | date => exact holds.exactlyOne_of_date kind member among accepts suits
  | boolean => exact holds.exactlyOne_of_boolean kind member among accepts
  | enumeration => exact holds.exactlyOne_of_enumeration kind member among accepts
  | array => exact holds.exactlyOne_of_array kind writable member among accepts suits

/-- A bound is compared with the stored number. -/
theorem verdict_of_bound (holds : schema.Holds key values spec stored) (kind : spec.kind = .number)
    {relation : Relation} (allowed : operator ∈ AttributeKind.number.operators)
    (form : operator.form .number = .number)
    (test : Operand.test .number operator operand = Operand.numberTest relation operand)
    {asked found : Decimal} {order : Ordering} (reads : operand.decimal? = some asked)
    (has : stored.decimal? = some found) (ordered : found.order? asked = some order) :
    schema.verdict key values today operator operand = .ok (relation.allows order) := by
  have allowed : operator ∈ spec.kind.operators := kind ▸ allowed
  have accepts : schema.Accepts key operator operand := by
    rw [accepts_iff holds.declared allowed, kind, form]
    exact ⟨⟨asked, reads⟩, id, id⟩
  obtain ⟨made, read, answers⟩ := number_answers reads has ordered relation today
  exact holds.verdict_of_test allowed accepts (kind ▸ test.trans read) answers

/-- A number is between two bounds if it is at least the one and at most the other. -/
theorem between_of_bounds (holds : schema.Holds key values spec stored)
    (kind : spec.kind = .number) (finite : stored.IsFinite) {low high : Value}
    (least : operand.field? "min" = some low) (most : operand.field? "max" = some high)
    (accepts : schema.Accepts key .between operand)
    (suits : Operator.between.Suits spec.kind operand today) :
    ∃ above below, schema.verdict key values today .greaterThanOrEqual low = .ok above ∧
      schema.verdict key values today .lessThanOrEqual high = .ok below ∧
      schema.verdict key values today .between operand = .ok (above && below) := by
  have allowed : Operator.between ∈ spec.kind.operators := by
    rw [kind]
    decide
  obtain ⟨admits, -, -⟩ := (accepts_iff holds.declared allowed).mp accepts
  obtain ⟨_, _, sameLow, ⟨first, readsLow⟩, sameHigh, ⟨last, readsHigh⟩⟩ := admits
  cases least.symm.trans sameLow
  cases most.symm.trans sameHigh
  obtain ⟨found, has⟩ := AttributeSpec.number_of_fits kind holds.fits
  have firstFinite := suits "min" (by decide) low least first readsLow
  have lastFinite := suits "max" (by decide) high most last readsHigh
  obtain ⟨fromFirst, orderedLow⟩ := Decimal.exists_order? (finite found has) firstFinite
  obtain ⟨toLast, orderedHigh⟩ := Decimal.exists_order? (finite found has) lastFinite
  -- the test compares the lower bound with the number, the operator the number with the bound
  have turned : first.order? found = some fromFirst.swap := by
    rw [← Decimal.order?_swap, orderedLow]
    rfl
  have read : Operand.test spec.kind .between operand = .ok (.between first last) := by
    have bounds : Operand.range operand = .ok (first, last) := by
      rw [Operand.range, least, most]
      dsimp only
      rw [Operand.number, readsLow, Operand.number, readsHigh]
      rfl
    rw [kind, Operand.test, bounds]
    rfl
  refine ⟨Relation.atLeast.allows fromFirst, Relation.atMost.allows toLast,
    holds.verdict_of_bound kind (by decide) rfl rfl readsLow has orderedLow,
    holds.verdict_of_bound kind (by decide) rfl rfl readsHigh has orderedHigh,
    holds.verdict_of_test allowed accepts read ?_⟩
  rw [Test.holds, has, Relation.allows_atLeast_swap]
  dsimp only
  rw [Relation.holdsOfNumbers_of_order turned, Relation.holdsOfNumbers_of_order orderedHigh]
  cases Relation.atMost.allows fromFirst.swap <;> rfl

end AttributeSchema.Holds

end Herald
