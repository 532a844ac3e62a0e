import Herald.Proofs.Compilation

/-! # When evaluation is refused

A value that cannot be read does not match. Four things are not that lenient: a comparison with
something that is not a number, a date outside the calendar, a property that cannot be a name, and a
value that is too deep for a text. `Test.Refuses` says for every test where they matter, and a
predicate is refused exactly if it comes to a condition that is.
-/

namespace Herald

open Value (Refusal)

/-! ## Computations that fail -/

/-- A computation that has no result. -/
def Fails {ε α : Type} (result : Except ε α) : Prop := ∃ failure, result = .error failure

section

variable {ε δ α β : Type}

@[simp] theorem fails_ok (value : α) : ¬ Fails (.ok value : Except ε α) := nofun

@[simp] theorem fails_pure (value : α) : ¬ Fails (pure value : Except ε α) := nofun

@[simp] theorem fails_error (failure : ε) : Fails (.error failure : Except ε α) := ⟨failure, rfl⟩

@[simp] theorem fails_map {result : Except ε α} (f : α → β) :
    Fails (result.map f) ↔ Fails result := by
  cases result <;> simp [Except.map]

@[simp] theorem fails_functor {result : Except ε α} (f : α → β) :
    Fails (f <$> result) ↔ Fails result :=
  fails_map f

@[simp] theorem fails_mapError {result : Except ε α} (f : ε → δ) :
    Fails (result.mapError f) ↔ Fails result := by
  cases result <;> simp [Except.mapError]

@[simp] theorem fails_ite {c : Prop} [Decidable c] {result other : Except ε α} :
    Fails (if c then result else other) ↔ c ∧ Fails result ∨ ¬ c ∧ Fails other := by
  split <;> simp_all

/-- Steps fail if the first one does, or the second one with its result. -/
theorem fails_bind {result : Except ε α} {next : α → Except ε β} :
    Fails (result >>= next) ↔ Fails result ∨ ∃ value, result = .ok value ∧ Fails (next value) := by
  cases result with
  | ok value => exact ⟨fun fails => .inr ⟨value, rfl, fails⟩, by simp [bind, Except.bind]⟩
  | error failure => exact ⟨fun _ => .inl (fails_error failure), fun _ => fails_error failure⟩

/-- Two parts that are put together fail if either does. -/
theorem fails_both {γ : Type} {first : Except ε α} {second : Except ε β} {f : α → β → γ} :
    Fails (do return f (← first) (← second)) ↔ Fails first ∨ Fails second := by
  cases first with
  | error failure => exact ⟨fun _ => .inl (fails_error failure), fun _ => fails_error failure⟩
  | ok value =>
    cases second with
    | error failure => exact ⟨fun _ => .inr (fails_error failure), fun _ => fails_error failure⟩
    | ok other => exact ⟨nofun, fun fails => fails.elim nofun nofun⟩

end

/-- A search through a list that gets to an item of a kind: everything before it is passed. -/
def GetsTo {α : Type} (passes found : α → Prop) (list : List α) : Prop :=
  ∃ before item after, list = before ++ item :: after ∧ (∀ earlier ∈ before, passes earlier) ∧
    found item

theorem getsTo_nil {α : Type} {passes found : α → Prop} : ¬ GetsTo passes found [] := by
  simp [GetsTo]

theorem getsTo_cons {α : Type} {passes found : α → Prop} {item : α} {rest : List α} :
    GetsTo passes found (item :: rest) ↔ found item ∨ passes item ∧ GetsTo passes found rest := by
  constructor
  · rintro ⟨before, other, after, split, passed, here⟩
    cases before with
    | nil =>
      obtain ⟨rfl, -⟩ := List.cons.inj split
      exact .inl here
    | cons first others =>
      obtain ⟨rfl, tail⟩ := List.cons.inj split
      obtain ⟨pass, passed⟩ := List.forall_mem_cons.mp passed
      exact .inr ⟨pass, others, other, after, tail, passed, here⟩
  · rintro (here | ⟨pass, before, other, after, rfl, passed, here⟩)
    · exact ⟨[], item, rest, rfl, List.forall_mem_nil _, here⟩
    · exact ⟨item :: before, other, after, rfl, List.forall_mem_cons.mpr ⟨pass, passed⟩, here⟩

/-! ## Numbers and dates -/

/-- A comparison that is undefined: what is not a number has no place in an order, and a signaling
one is not even different from anything. -/
def Relation.IsUndefined (relation : Relation) (a b : Decimal) : Prop :=
  (a.isNaN = true ∨ b.isNaN = true) ∧
    (relation = .equal ∨ relation = .different → a.isSignaling = true ∨ b.isSignaling = true)

theorem Decimal.order?_eq_none_iff {a b : Decimal} :
    a.order? b = none ↔ a.isNaN = true ∨ b.isNaN = true := by
  cases a with
  | nan => simp [order?, isNaN]
  | infinite => cases b <;> simp [order?, isNaN]
  | finite =>
    cases b with
    | finite => simp only [order?, isNaN]; split_ifs <;> simp
    | _ => simp [order?, isNaN]

theorem Relation.fails_holdsOfNumbers {relation : Relation} {a b : Decimal} :
    Fails (relation.holdsOfNumbers a b) ↔ relation.IsUndefined a b := by
  unfold holdsOfNumbers IsUndefined
  rw [← Decimal.order?_eq_none_iff]
  cases a.order? b with
  | some order => simp
  | none => cases relation <;> simp

/-- A number of days that leads from a day out of the calendar. -/
def Date.IsOutside (today : Date) (days : ℤ) : Prop :=
  today.day + days < 1 ∨ lastDay < today.day + days

theorem Date.addDays?_eq_none_iff {today : Date} {days : ℤ} :
    today.addDays? days = none ↔ today.IsOutside days := by
  unfold addDays? ofDay? IsOutside
  split
  · rename_i inside
    simp only [reduceCtorEq, false_iff]
    omega
  · rename_i outside
    simp only [true_iff]
    omega

theorem Test.fails_daysAfter {today : Date} {days : ℤ} :
    Fails (daysAfter today days) ↔ today.IsOutside days := by
  rw [daysAfter, fails_mapError, Date.later, ← Date.addDays?_eq_none_iff]
  cases today.addDays? days <;> simp

theorem Test.fails_daysBefore {today : Date} {days : ℤ} :
    Fails (daysBefore today days) ↔ today.IsOutside (-days) := by
  rw [daysBefore, fails_mapError, Date.earlier, ← Date.addDays?_eq_none_iff]
  cases today.addDays? (-days) <;> simp

theorem Value.fails_written {value : Value} : Fails value.written ↔ value.isTooDeep = true := by
  unfold written
  split <;> simp_all

/-! ## Lists -/

/-- A list with a record, and a property that cannot be looked for among the names of its fields. -/
def Misnames (name : Value) (items : List Value) : Prop :=
  (∃ fault, name.nameFault? = some fault) ∧ ∃ fields, Value.record fields ∈ items

/-- A list with a record whose named property is too deep to be written. -/
def HasDeepMember (name : Value) (items : List Value) : Prop :=
  ∃ (key : String) (fields : Fields), name = .text key ∧ Value.record fields ∈ items ∧
    (fields.getOrNull key).isTooDeep = true

/-- Whether an element matches a text that is looked for: a record by having a property of that
name, another element by its own text. -/
def matchesText (operand : String) : Value → Bool
  | .record fields => !(Fields.getOrNull fields operand).isNull
  | item => item.shown == operand

/-- A list in which an element is too deep to be written, before any element matches. -/
def HasDeepElement (operand : String) (items : List Value) : Prop :=
  GetsTo (fun item => matchesText operand item = false)
    (fun item => (∀ fields, item ≠ .record fields) ∧ item.isTooDeep = true) items

section

variable {name : Value} {operand : String} {rest : List Value}

theorem misnames_record {fields : Fields} :
    Misnames name (.record fields :: rest) ↔ ∃ fault, name.nameFault? = some fault :=
  ⟨And.left, fun fault => ⟨fault, fields, List.mem_cons_self⟩⟩

theorem misnames_plain {item : Value} (plain : ∀ fields, item ≠ .record fields) :
    Misnames name (item :: rest) ↔ Misnames name rest := by
  simp [Misnames, fun fields => (plain fields).symm]

theorem hasDeepMember_record {fields : Fields} :
    HasDeepMember name (.record fields :: rest) ↔
      (∃ key, name = .text key ∧ (fields.getOrNull key).isTooDeep = true) ∨
        HasDeepMember name rest := by
  constructor
  · rintro ⟨key, other, rfl, member, deep⟩
    rcases List.mem_cons.mp member with ⟨⟨⟩⟩ | among
    · exact .inl ⟨key, rfl, deep⟩
    · exact .inr ⟨key, other, rfl, among, deep⟩
  · rintro (⟨key, rfl, deep⟩ | ⟨key, other, rfl, among, deep⟩)
    · exact ⟨key, fields, rfl, List.mem_cons_self, deep⟩
    · exact ⟨key, other, rfl, List.mem_cons_of_mem _ among, deep⟩

theorem hasDeepMember_plain {item : Value} (plain : ∀ fields, item ≠ .record fields) :
    HasDeepMember name (item :: rest) ↔ HasDeepMember name rest := by
  simp [HasDeepMember, fun fields => (plain fields).symm]

end

namespace Test

theorem fails_property {name : Value} {fields : Fields} :
    Fails (property name fields) ↔ ∃ fault, name.nameFault? = some fault := by
  rw [property, fails_map]
  exact Operand.asName_error_iff

/-- A property that can be a name has a value, and only a named one may be deep. -/
theorem exists_property {name : Value} (nameable : name.nameFault? = none) (fields : Fields) :
    ∃ value, property name fields = .ok value ∧
      (value.isTooDeep = true ↔
        ∃ key, name = .text key ∧ (fields.getOrNull key).isTooDeep = true) := by
  have shallow : ¬ Value.null.isTooDeep = true := Bool.false_ne_true
  cases name with
  | text key => exact ⟨fields.getOrNull key, rfl, by simp⟩
  | list items => cases nameable
  | record fields => cases nameable
  | decimal number =>
    have silent : (Value.decimal number).asName = .ok none := by
      unfold Value.asName
      rw [nameable]
    exact ⟨.null, by rw [property, silent]; rfl, by simp [shallow]⟩
  | _ => exact ⟨.null, rfl, by simp [shallow]⟩

section

variable {name : Value} {operand : String} {rest : List Value}

theorem fails_elementTexts_plain {item : Value} (plain : ∀ fields, item ≠ .record fields) :
    Fails (elementTexts name (item :: rest)) ↔ Fails (elementTexts name rest) := by
  cases item with
  | record fields => exact absurd rfl (plain fields)
  | list items => exact Iff.rfl
  | _ => by_cases null : name.isNull = true <;> simp [elementTexts, null]

theorem fails_elementTexts_record {fields : Fields} :
    Fails (elementTexts name (.record fields :: rest)) ↔
      (∃ fault, name.nameFault? = some fault) ∨
        (∃ key, name = .text key ∧ (fields.getOrNull key).isTooDeep = true) ∨
          Fails (elementTexts name rest) := by
  rw [elementTexts]
  split
  · rename_i null
    cases Operand.isNull_iff.mp null
    simp [Value.nameFault?]
  · rw [fails_bind, fails_property]
    refine or_congr_right' fun nameable => ?_
    have nameable := Option.eq_none_iff_forall_not_mem.mpr fun fault found => nameable ⟨fault, found⟩
    obtain ⟨value, read, deep_iff⟩ := exists_property nameable fields
    have deep_of_null : value.isNull = true → ¬ value.isTooDeep = true := by
      intro null
      cases Operand.isNull_iff.mp null
      exact Bool.false_ne_true
    simp only [read, Except.ok.injEq, exists_eq_left', fails_ite, fails_both, Value.fails_written,
      ← deep_iff]
    tauto

theorem fails_expiryDates_plain {item : Value} (plain : ∀ fields, item ≠ .record fields) :
    expiryDates name (item :: rest) = expiryDates name rest := by
  cases item with
  | record fields => exact absurd rfl (plain fields)
  | _ => rfl

theorem fails_hasElementNamed_plain {item : Value} (plain : ∀ fields, item ≠ .record fields) :
    Fails (hasElementNamed operand (item :: rest)) ↔ item.isTooDeep = true ∨
      matchesText operand item = false ∧ Fails (hasElementNamed operand rest) := by
  have unfolded : hasElementNamed operand (item :: rest) = (do
      if (← item.written) == operand then return true else hasElementNamed operand rest) := by
    cases item with
    | record fields => exact absurd rfl (plain fields)
    | _ => rfl
  have matches_eq : matchesText operand item = (item.shown == operand) := by
    cases item with
    | record fields => exact absurd rfl (plain fields)
    | _ => rfl
  rw [unfolded, fails_bind, Value.fails_written, matches_eq]
  refine or_congr_right' fun shallow => ?_
  rw [Value.written, if_neg shallow]
  by_cases same : item.shown = operand <;> simp [same]

end

theorem fails_elementTexts {name : Value} {items : List Value} :
    Fails (elementTexts name items) ↔ Misnames name items ∨ HasDeepMember name items := by
  induction items with
  | nil => simp [elementTexts, Misnames, HasDeepMember]
  | cons item rest ih =>
    rcases item.record_or_plain with ⟨fields, rfl⟩ | plain
    · have faulty : Misnames name rest → ∃ fault, name.nameFault? = some fault := And.left
      rw [misnames_record, hasDeepMember_record, fails_elementTexts_record, ih]
      constructor
      · rintro (fault | deep | misnamed | deeper)
        · exact .inl fault
        · exact .inr (.inl deep)
        · exact .inl (faulty misnamed)
        · exact .inr (.inr deeper)
      · rintro (fault | deep | deeper)
        · exact .inl fault
        · exact .inr (.inl deep)
        · exact .inr (.inr (.inr deeper))
    · rw [misnames_plain plain, hasDeepMember_plain plain, ← ih, fails_elementTexts_plain plain]

theorem fails_expiryDates {name : Value} {items : List Value} :
    Fails (expiryDates name items) ↔ Misnames name items := by
  induction items with
  | nil => simp [expiryDates, Misnames]
  | cons item rest ih =>
    rcases item.record_or_plain with ⟨fields, rfl⟩ | plain
    · have faulty : Misnames name rest → ∃ fault, name.nameFault? = some fault := And.left
      rw [misnames_record, expiryDates, fails_bind, fails_property, or_iff_left_iff_imp]
      rintro ⟨value, -, fails⟩
      rw [fails_bind] at fails
      exact fails.elim (fun fails => faulty (ih.mp fails)) fun ⟨_, _, fails⟩ => nomatch fails
    · rw [misnames_plain plain, ← ih, fails_expiryDates_plain plain]

theorem fails_hasElementNamed {operand : String} {items : List Value} :
    Fails (hasElementNamed operand items) ↔ HasDeepElement operand items := by
  induction items with
  | nil => exact iff_of_false (fails_ok false) getsTo_nil
  | cons item rest ih =>
    rw [HasDeepElement, getsTo_cons, ← HasDeepElement, ← ih]
    rcases item.record_or_plain with ⟨fields, rfl⟩ | plain
    · rw [hasElementNamed]
      by_cases named : (Fields.getOrNull fields operand).isNull = true <;>
        simp [matchesText, named]
    · rw [fails_hasElementNamed_plain plain, and_iff_right plain]

/-! ## Tests -/

/-- The stored values that a test refuses on a day. -/
def Refuses (test : Test) (stored : Value) (today : Date) : Prop :=
  match test with
  | .text _ _ | .oneOf _ | .noneOf _ => stored.isTooDeep = true
  | .number relation operand =>
    ∃ found, stored.decimal? = some found ∧ relation.IsUndefined found operand
  | .between low high => ∃ found, stored.decimal? = some found ∧
    (Relation.atMost.IsUndefined low found ∨
      Relation.atMost.holdsOfNumbers low found = .ok true ∧ Relation.atMost.IsUndefined found high)
  | .inDays _ days => stored.IsDate ∧ today.IsOutside days
  | .daysAgo _ days => stored.IsDate ∧ today.IsOutside (-days)
  | .within days => 0 < days ∧ today.IsOutside days ∧
    ∃ date, stored.date? = some date ∧ today.day ≤ date.day
  | .since days => 0 < days ∧ today.IsOutside (-days) ∧ stored.IsDate
  | .anyMember name _ | .allMembers name _ | .noMember name _ =>
    ∃ items, stored = .list items ∧ (Misnames name items ∨ HasDeepMember name items)
  | .hasElement operand => ∃ items, stored = .list items ∧ HasDeepElement operand items
  | .anyExpiryInDays name days | .anyExpiryWithin name days =>
    ∃ items, stored = .list items ∧ (today.IsOutside days ∨ Misnames name items)
  | .anyExpirySince name days =>
    ∃ items, stored = .list items ∧ (today.IsOutside (-days) ∨ Misnames name items)
  | .anyExpiryAfter name _ | .anyExpiryToday name =>
    ∃ items, stored = .list items ∧ Misnames name items
  | .present | .absent | .dated _ _ | .isTrue | .isFalse | .count _ _ | .filled | .empty => False

theorem fails_againstDate {relation : Relation} {stored : Value} {day : Except Refusal Date} :
    Fails (againstDate relation stored day) ↔ stored.IsDate ∧ Fails day := by
  unfold againstDate Value.IsDate
  cases stored.date? with
  | none => simp
  | some date => simp

/-- A test of lists is refused where its list is. -/
theorem fails_list {stored : Value} {test : List Value → Except Refusal Bool} :
    Fails (match stored with
      | .list items => test items
      | _ => .ok false) ↔ ∃ items, stored = .list items ∧ Fails (test items) := by
  cases stored <;> simp

theorem fails_between {low high : Decimal} {stored : Value} {today : Date} :
    Fails (holds (.between low high) stored today) ↔ Refuses (.between low high) stored today := by
  unfold holds Refuses
  cases stored.decimal? with
  | none => simp
  | some found =>
    simp only [fails_bind, Relation.fails_holdsOfNumbers, Option.some.injEq, exists_eq_left',
      fails_ite, fails_pure, and_false, or_false]
    exact or_congr_right ⟨fun ⟨_, below, holds, fails⟩ => ⟨holds ▸ below, fails⟩,
      fun ⟨below, fails⟩ => ⟨true, below, rfl, fails⟩⟩

theorem fails_within {days : ℤ} {stored : Value} {today : Date} :
    Fails (holds (.within days) stored today) ↔ Refuses (.within days) stored today := by
  unfold holds Refuses
  cases stored.date? with
  | none => simp
  | some date =>
    simp only [fails_ite, fails_ok, and_false, false_or, fails_map, fails_daysAfter, not_le, not_lt,
      Option.some.injEq, exists_eq_left']
    tauto

theorem fails_since {days : ℤ} {stored : Value} {today : Date} :
    Fails (holds (.since days) stored today) ↔ Refuses (.since days) stored today := by
  unfold holds Refuses Value.IsDate
  cases stored.date? with
  | none => simp
  | some date => simp [fails_daysBefore]

/-- A day is worked out before the dates of a list are looked at. -/
theorem fails_dayThenDates {day : Except Refusal Date} {name : Value} {items : List Value}
    {test : Date → List Date → Bool} :
    Fails (day >>= fun day => (expiryDates name items).map (test day)) ↔
      Fails day ∨ Misnames name items := by
  rw [fails_bind, ← fails_expiryDates]
  cases day with
  | error failure => simp
  | ok day => simp

theorem fails_holds (test : Test) (stored : Value) (today : Date) :
    Fails (test.holds stored today) ↔ test.Refuses stored today := by
  cases test with
  | present | absent | isTrue | isFalse | empty => exact iff_of_false nofun id
  | text | oneOf | noneOf => simp [holds, Refuses, Value.fails_written]
  | inDays => rw [holds, fails_againstDate, fails_daysAfter, Refuses]
  | daysAgo => rw [holds, fails_againstDate, fails_daysBefore, Refuses]
  | dated => simp [holds, fails_againstDate, Refuses]
  | number relation operand =>
    unfold holds Refuses
    cases stored.decimal? with
    | none => simp
    | some found => simp [Relation.fails_holdsOfNumbers]
  | between => exact fails_between
  | within => exact fails_within
  | since => exact fails_since
  | count | filled => exact fails_list.trans (by simp [holdsOfList, Refuses])
  | anyMember | allMembers | noMember =>
    exact fails_list.trans (by simp [holdsOfList, Refuses, fails_elementTexts])
  | hasElement => exact fails_list.trans (by simp [holdsOfList, Refuses, fails_hasElementNamed])
  | anyExpiryInDays | anyExpiryWithin =>
    refine fails_list.trans ?_
    simp only [holdsOfList, Refuses, fails_dayThenDates, fails_daysAfter]
  | anyExpirySince =>
    refine fails_list.trans ?_
    simp only [holdsOfList, Refuses, fails_dayThenDates, fails_daysBefore]
  | anyExpiryAfter | anyExpiryToday =>
    exact fails_list.trans (by simp [holdsOfList, Refuses, fails_expiryDates])

end Test

/-! ## Predicates -/

/-- A condition is refused if its attribute is there, where it has to be, and its test is
refused. -/
def CompiledCondition.Refuses (condition : CompiledCondition) (values : Fields) (today : Date) :
    Prop :=
  (condition.operator.requiresPresence = true → values.getOrNull condition.key ≠ .null) ∧
    condition.test.Refuses (values.getOrNull condition.key) today

theorem CompiledCondition.fails_holds (condition : CompiledCondition) (values : Fields)
    (today : Date) : Fails (condition.holds values today) ↔ condition.Refuses values today := by
  simp only [holds, fails_ite, fails_ok, and_false, false_or, Test.fails_holds, Refuses,
    Bool.and_eq_true, Operand.isNull_iff, not_and]

namespace Predicate

variable {values : Fields} {today : Date} {conditions : List CompiledCondition}

theorem fails_allHold :
    Fails (allHold values today conditions) ↔
      GetsTo (fun condition => condition.holds values today = .ok true)
        (fun condition => condition.Refuses values today) conditions := by
  induction conditions with
  | nil => exact iff_of_false (fails_ok true) getsTo_nil
  | cons condition rest ih =>
    rw [getsTo_cons, ← ih, allHold, fails_bind, CompiledCondition.fails_holds]
    simp

theorem fails_anyHolds :
    Fails (anyHolds values today conditions) ↔
      GetsTo (fun condition => condition.holds values today = .ok false)
        (fun condition => condition.Refuses values today) conditions := by
  induction conditions with
  | nil => exact iff_of_false (fails_ok false) getsTo_nil
  | cons condition rest ih =>
    rw [getsTo_cons, ← ih, anyHolds, fails_bind, CompiledCondition.fails_holds]
    simp

end Predicate

/-- A filter on what expires in a number of days that leads out of the calendar. -/
def sampleFarExpiry : Value :=
  .record [("conditions", .list [.record [("key", .text "expiry"),
    ("operator", .text "expires_in_days_eq"), ("value", .int 999999999)]])]

/-- The condition of that filter, compiled. -/
def sampleFarCondition : CompiledCondition :=
  ⟨"expiry", .expiresInDaysEq, .date, .inDays .equal 999999999⟩

theorem sampleFarExpiry_compiles :
    Predicate.compileRaw sampleSchema sampleFarExpiry =
      .ok ⟨.all, [sampleFarCondition], .customer⟩ := by
  have short : Number.isOverlong 999999999 = false := by decide +kernel
  have reportable : sampleFarCondition.test.fault? = none := by
    rw [sampleFarCondition, Test.fault?, Test.numberFault?, short]
    rfl
  have compiled : ([⟨"expiry", "expires_in_days_eq", .int 999999999⟩] : List Condition).mapM
      (CompiledCondition.compile sampleSchema) = .ok [sampleFarCondition] := rfl
  refine (Predicate.compile_of_mapM compiled).trans ?_
  rw [List.findSome?_cons, reportable]
  rfl

end Herald
