import Herald.Proofs.Comparison

/-! # Days to come and days gone by

Two families of operators count days from today, the one forwards and the other one backwards. A
number of days ago is the opposite number of days to come, so the families mirror each other, where
more days ago is an earlier date. The two operators on a span of days are pairs of these, as long as
the span has a day in it.
-/

namespace Herald

open Value (Refusal)

/-! ## Answers of operators -/

/-- What an operator says of a stored value on a day, once it has read its operand. -/
def Operator.answer (kind : AttributeKind) (operator : Operator) (operand stored : Value)
    (today : Date) : Except OperandProblem Bool := do
  let test ← Operand.test kind operator operand
  (test.holds stored today).mapError .refused

/-- A value stands for a number of days, alone or under that name. -/
def Value.AsksDays (operand : Value) (days : ℤ) : Prop := (operand.part "days").IsInteger days

section

variable {kind : AttributeKind} {operator : Operator} {operand stored : Value} {today : Date}

theorem Operator.answer_of_test {test : Test}
    (reads : Operand.test kind operator operand = .ok test) :
    operator.answer kind operand stored today = (test.holds stored today).mapError .refused := by
  rw [answer, reads]
  rfl

/-- An operator on a number of days says what its test says. -/
theorem Operator.answer_of_days {days : ℤ} (asks : operand.AsksDays days) {make : ℤ → Test}
    (test : Operand.test kind operator operand = (Operand.days operand).map make) :
    operator.answer kind operand stored today =
      ((make days).holds stored today).mapError .refused := by
  refine answer_of_test (test.trans ?_)
  rw [Operand.days_eq_ok_iff.mpr asks]
  rfl

end

/-! ## Days -/

theorem Date.addDays?_eq_some_iff {today day : Date} {days : ℤ} :
    today.addDays? days = some day ↔ (day.day : ℤ) = today.day + days := by
  unfold addDays? ofDay?
  split
  · rename_i inside
    rw [Option.some_inj]
    constructor
    · rintro rfl
      exact Int.toNat_of_nonneg (by omega)
    · intro same
      obtain ⟨number, low, high⟩ := day
      dsimp only at same
      congr 1
      omega
  · rename_i outside
    refine iff_of_false (Option.some_ne_none day).symm fun same => outside ?_
    have low := day.one_le_day
    have high := day.day_le_last
    omega

/-- A day is days away from itself by none. -/
theorem Date.not_isOutside_zero (today : Date) : ¬ today.IsOutside 0 := by
  have low := today.one_le_day
  have high := today.day_le_last
  rw [IsOutside]
  omega

/-- Between today and a day in the calendar all days are in the calendar. -/
theorem Date.not_isOutside_of_between {today : Date} {nearer further : ℤ}
    (least : min 0 further ≤ nearer) (most : nearer ≤ max 0 further)
    (inside : ¬ today.IsOutside further) : ¬ today.IsOutside nearer := by
  have low := today.one_le_day
  have high := today.day_le_last
  rw [IsOutside] at *
  omega

/-- A number of days that stays in the calendar is short. -/
theorem not_isOverlong_of_inside {today : Date} {days : ℤ} (inside : ¬ today.IsOutside days) :
    Number.isOverlong days = false := by
  have wide : lastDay < Number.tenPow Number.longestWritten := by decide +kernel
  have low := today.one_le_day
  have high := today.day_le_last
  rw [Date.IsOutside] at inside
  exact decide_eq_false (by omega)

theorem isOverlong_neg (number : ℤ) : Number.isOverlong (-number) = Number.isOverlong number := by
  rw [Number.isOverlong, Number.isOverlong, Int.natAbs_neg]

theorem Relation.relates_natCast {a b : ℕ} (relation : Relation) :
    relation.Relates (a : ℤ) b ↔ relation.Relates a b := by
  cases relation <;> simp [Relates]

theorem Relation.holdsOfDates_eq (relation : Relation) (a b : Date) :
    relation.holdsOfDates a b = decide (relation.Relates (a.day : ℤ) b.day) := by
  rw [holdsOfDates, allows_eq_decide ((compare_iff _ _).mp rfl), decide_eq_decide]
  exact (relates_natCast relation).symm

namespace Test

variable {stored : Value} {today date : Date} {days : ℤ}

theorem daysAfter_of_inside (inside : ¬ today.IsOutside days) :
    ∃ day : Date, daysAfter today days = .ok day ∧ (day.day : ℤ) = today.day + days := by
  obtain ⟨day, there⟩ := Date.exists_addDays? inside
  refine ⟨day, ?_, Date.addDays?_eq_some_iff.mp there⟩
  rw [daysAfter, Date.later, there]
  rfl

theorem daysBefore_of_inside (inside : ¬ today.IsOutside (-days)) :
    ∃ day : Date, daysBefore today days = .ok day ∧ (day.day : ℤ) = today.day - days := by
  obtain ⟨day, there⟩ := Date.exists_addDays? inside
  refine ⟨day, ?_, Date.addDays?_eq_some_iff.mp there⟩
  rw [daysBefore, Date.earlier, there]
  rfl

theorem holds_inDays (has : stored.date? = some date) (inside : ¬ today.IsOutside days)
    (relation : Relation) :
    holds (.inDays relation days) stored today =
      .ok (decide (relation.Relates (date.day : ℤ) (today.day + days))) := by
  obtain ⟨day, there, number⟩ := daysAfter_of_inside inside
  rw [holds, againstDate, has, there, ← number, ← Relation.holdsOfDates_eq]
  rfl

theorem holds_daysAgo (has : stored.date? = some date) (inside : ¬ today.IsOutside (-days))
    (relation : Relation) :
    holds (.daysAgo relation days) stored today =
      .ok (decide (relation.Relates (date.day : ℤ) (today.day - days))) := by
  obtain ⟨day, there, number⟩ := daysBefore_of_inside inside
  rw [holds, againstDate, has, there, ← number, ← Relation.holdsOfDates_eq]
  rfl

theorem holds_within (has : stored.date? = some date) (some : 1 ≤ days)
    (inside : ¬ today.IsOutside days) :
    holds (.within days) stored today =
      .ok (decide (today.day ≤ date.day ∧ (date.day : ℤ) ≤ today.day + days)) := by
  obtain ⟨last, there, number⟩ := daysAfter_of_inside inside
  rw [holds, has, there, ← number]
  dsimp only
  rw [if_neg (by omega)]
  split
  · rename_i past
    rw [decide_eq_false (by omega)]
  · rename_i coming
    refine congrArg Except.ok (decide_eq_decide.mpr ?_)
    omega

theorem holds_since (has : stored.date? = some date) (some : 1 ≤ days)
    (inside : ¬ today.IsOutside (-days)) :
    holds (.since days) stored today =
      .ok (decide ((today.day : ℤ) - days ≤ date.day ∧ date.day ≤ today.day)) := by
  obtain ⟨first, there, number⟩ := daysBefore_of_inside inside
  rw [holds, has, there, ← number]
  dsimp only
  rw [if_neg (by omega)]
  refine congrArg Except.ok (decide_eq_decide.mpr ?_)
  omega

/-- Of a value that is not a date, the tests that count days say no. -/
theorem holds_of_undated (undated : stored.date? = none) (relation : Relation) (days : ℤ)
    (today : Date) :
    holds (.inDays relation days) stored today = .ok false ∧
      holds (.daysAgo relation days) stored today = .ok false ∧
      holds (.within days) stored today = .ok false ∧
      holds (.since days) stored today = .ok false := by
  rw [holds, holds, holds, holds, againstDate, againstDate, undated]
  exact ⟨rfl, rfl, rfl, rfl⟩

/-- A span of no days holds every date. -/
theorem holds_of_empty_span (none : days ≤ 0) (stored : Value) (today : Date) :
    holds (.within days) stored today = .ok stored.date?.isSome ∧
      holds (.since days) stored today = .ok stored.date?.isSome := by
  rw [holds, holds]
  cases stored.date? with
  | none => exact ⟨rfl, rfl⟩
  | some date => exact ⟨if_pos none, if_pos none⟩

end Test

/-! ## The mirror -/

/-- The operators on days to come, with the relations that they test. -/
def comingRelations : List (Operator × Relation) :=
  [(.expiresInDaysEq, .equal), (.expiresInDaysGt, .greater), (.expiresInDaysGte, .atLeast),
    (.expiresInDaysLt, .less), (.expiresInDaysLte, .atMost)]

theorem comingRelations_allowed : ∀ entry ∈ comingRelations,
    entry.1 ∈ AttributeKind.date.operators ∧ entry.1.form .date = .days := by
  decide

/-- The operators on days gone by: more days ago is an earlier date. -/
def goneRelations : List (Operator × Relation) :=
  [(.daysAgoEq, .equal), (.daysAgoGt, .less), (.daysAgoGte, .atMost), (.daysAgoLt, .greater),
    (.daysAgoLte, .atLeast)]

/-- The operators on days gone by, each with the one on days to come that it mirrors. -/
def mirroredOperators : List (Operator × Operator) :=
  [(.daysAgoEq, .expiresInDaysEq), (.daysAgoGt, .expiresInDaysLt),
    (.daysAgoGte, .expiresInDaysLte), (.daysAgoLt, .expiresInDaysGt),
    (.daysAgoLte, .expiresInDaysGte)]

theorem mirroredOperators_relation : ∀ pair ∈ mirroredOperators, ∃ relation : Relation,
    (pair.1, relation) ∈ goneRelations ∧ (pair.2, relation) ∈ comingRelations := by
  intro pair among
  fin_cases among
  · exact ⟨.equal, by decide⟩
  · exact ⟨.less, by decide⟩
  · exact ⟨.atMost, by decide⟩
  · exact ⟨.greater, by decide⟩
  · exact ⟨.atLeast, by decide⟩

section

variable {operator : Operator} {relation : Relation} {operand : Value} {days : ℤ}

theorem answer_of_coming (listed : (operator, relation) ∈ comingRelations)
    (asks : operand.AsksDays days) (stored : Value) (today : Date) :
    operator.answer .date operand stored today =
      ((Test.inDays relation days).holds stored today).mapError .refused := by
  refine Operator.answer_of_days asks ?_
  simp only [comingRelations, List.mem_cons, List.not_mem_nil, or_false, Prod.mk.injEq] at listed
  rcases listed with ⟨rfl, rfl⟩ | ⟨rfl, rfl⟩ | ⟨rfl, rfl⟩ | ⟨rfl, rfl⟩ | ⟨rfl, rfl⟩ <;> rfl

theorem answer_of_gone (listed : (operator, relation) ∈ goneRelations)
    (asks : operand.AsksDays days) (stored : Value) (today : Date) :
    operator.answer .date operand stored today =
      ((Test.daysAgo relation days).holds stored today).mapError .refused := by
  refine Operator.answer_of_days asks ?_
  simp only [goneRelations, List.mem_cons, List.not_mem_nil, or_false, Prod.mk.injEq] at listed
  rcases listed with ⟨rfl, rfl⟩ | ⟨rfl, rfl⟩ | ⟨rfl, rfl⟩ | ⟨rfl, rfl⟩ | ⟨rfl, rfl⟩ <;> rfl

theorem answer_within (asks : operand.AsksDays days) (stored : Value) (today : Date) :
    Operator.expiresWithin.answer .date operand stored today =
      ((Test.within days).holds stored today).mapError .refused :=
  Operator.answer_of_days asks rfl

theorem answer_since (asks : operand.AsksDays days) (stored : Value) (today : Date) :
    Operator.expiredSince.answer .date operand stored today =
      ((Test.since days).holds stored today).mapError .refused :=
  Operator.answer_of_days asks rfl

end

/-- The same answer, or a refusal of both because a day is out of range, which tells how far it was
looked for. -/
inductive MirrorOutcome (days : ℤ) : Except OperandProblem Bool → Except OperandProblem Bool → Prop
  | same (answer : Bool) : MirrorOutcome days (.ok answer) (.ok answer)
  | outside : MirrorOutcome days (.error (.refused (.outOfRange (.ofDuration days))))
    (.error (.refused (.outOfRange (.ofDuration (-days)))))

theorem MirrorOutcome.of_tests (relation : Relation) (days : ℤ) (stored : Value) (today : Date) :
    MirrorOutcome days ((Test.holds (.daysAgo relation days) stored today).mapError .refused)
      ((Test.holds (.inDays relation (-days)) stored today).mapError .refused) := by
  rw [Test.holds, Test.holds, Test.againstDate, Test.againstDate, Test.daysBefore, Test.daysAfter,
    Date.earlier, Date.later]
  -- So many days before today is the opposite number of days after it: both look for one day.
  cases stored.date? with
  | none => exact .same false
  | some date =>
    cases today.addDays? (-days) with
    | none => exact .outside
    | some day => exact .same _

/-! ## Verdicts on days -/

/-- An operator on a number of days makes a test of it, which says no where there is no value. -/
theorem exists_test_of_days {operator : Operator} (form : operator.form .date = .days) :
    ∃ make : ℤ → Test,
      (∀ operand, Operand.test .date operator operand = (Operand.days operand).map make) ∧
      ∀ days, (make days).fault? = Test.numberFault? days ∧
        ∀ today, (make days).holds .null today = .ok false := by
  cases operator with
  | expiredSince => exact ⟨.since, fun _ => rfl, fun _ => ⟨rfl, fun _ => rfl⟩⟩
  | expiresWithin => exact ⟨.within, fun _ => rfl, fun _ => ⟨rfl, fun _ => rfl⟩⟩
  | daysAgoEq => exact ⟨.daysAgo .equal, fun _ => rfl, fun _ => ⟨rfl, fun _ => rfl⟩⟩
  | daysAgoGt => exact ⟨.daysAgo .less, fun _ => rfl, fun _ => ⟨rfl, fun _ => rfl⟩⟩
  | daysAgoGte => exact ⟨.daysAgo .atMost, fun _ => rfl, fun _ => ⟨rfl, fun _ => rfl⟩⟩
  | daysAgoLt => exact ⟨.daysAgo .greater, fun _ => rfl, fun _ => ⟨rfl, fun _ => rfl⟩⟩
  | daysAgoLte => exact ⟨.daysAgo .atLeast, fun _ => rfl, fun _ => ⟨rfl, fun _ => rfl⟩⟩
  | expiresInDaysEq => exact ⟨.inDays .equal, fun _ => rfl, fun _ => ⟨rfl, fun _ => rfl⟩⟩
  | expiresInDaysGt => exact ⟨.inDays .greater, fun _ => rfl, fun _ => ⟨rfl, fun _ => rfl⟩⟩
  | expiresInDaysGte => exact ⟨.inDays .atLeast, fun _ => rfl, fun _ => ⟨rfl, fun _ => rfl⟩⟩
  | expiresInDaysLt => exact ⟨.inDays .less, fun _ => rfl, fun _ => ⟨rfl, fun _ => rfl⟩⟩
  | expiresInDaysLte => exact ⟨.inDays .atMost, fun _ => rfl, fun _ => ⟨rfl, fun _ => rfl⟩⟩
  | _ => exact absurd form (by decide)

/-- The verdict on a date is the operator's answer, unless the number of days is too long to be
reported. -/
theorem AttributeSchema.verdict_of_days {schema : AttributeSchema} {key : String}
    {spec : AttributeSpec} {operator : Operator} {operand : Value} {days : ℤ}
    (declared : schema.get? key = some spec) (kind : spec.kind = .date)
    (allowed : operator ∈ AttributeKind.date.operators) (form : operator.form .date = .days)
    (asks : operand.AsksDays days) (values : Fields) (today : Date) :
    ∃ outcome : Except Refusal Bool,
      operator.answer .date operand (values.getOrNull key) today = outcome.mapError .refused ∧
      schema.verdict key values today operator operand =
        (if Number.isOverlong days then .error .overlongNumber else outcome).mapError
          .ofRefusal := by
  obtain ⟨make, test, answers⟩ := exists_test_of_days form
  obtain ⟨fault, absent⟩ := answers days
  have reads : Operand.test spec.kind operator operand = .ok (make days) := by
    rw [kind, test, Operand.days_eq_ok_iff.mpr asks]
    rfl
  refine ⟨(make days).holds (values.getOrNull key) today,
    Operator.answer_of_days asks (test operand), ?_⟩
  rw [verdict_of_read declared (kind ▸ allowed) reads, fault, Test.numberFault?]
  by_cases long : Number.isOverlong days = true
  · rw [if_pos long, if_pos long]
    rfl
  · rw [if_neg long, if_neg long]
    refine congrArg (Except.mapError Failure.ofRefusal) ?_
    rw [CompiledCondition.holds]
    dsimp only
    split
    · -- Without a value the test is not made, but it would say no.
      rename_i missing
      rw [Operand.isNull_iff.mp (Bool.and_eq_true_iff.mp missing).2, absent]
    · rfl

/-- An answer to a number of days that is not too long is the verdict. -/
theorem AttributeSchema.verdict_of_answer {schema : AttributeSchema} {key : String}
    {spec : AttributeSpec} {operator : Operator} {operand : Value} {days : ℤ} {values : Fields}
    {today : Date} {answer : Bool} (declared : schema.get? key = some spec)
    (kind : spec.kind = .date) (allowed : operator ∈ AttributeKind.date.operators)
    (form : operator.form .date = .days) (asks : operand.AsksDays days)
    (short : Number.isOverlong days = false)
    (answers : operator.answer .date operand (values.getOrNull key) today = .ok answer) :
    schema.verdict key values today operator operand = .ok answer := by
  obtain ⟨outcome, same, verdict⟩ := verdict_of_days declared kind allowed form asks values today
  rw [verdict, short]
  rw [answers] at same
  cases outcome with
  | error refusal => cases same
  | ok found =>
    cases same
    rfl

/-! ## Spans -/

section

variable {operand none : Value} {days : ℤ} {stored : Value} {today : Date}

theorem within_eq (asks : operand.AsksDays days) (nothing : none.AsksDays 0) (some : 1 ≤ days)
    (inside : ¬ today.IsOutside days) : ∃ started ending,
      Operator.expiresInDaysGte.answer .date none stored today = .ok started ∧
      Operator.expiresInDaysLte.answer .date operand stored today = .ok ending ∧
      Operator.expiresWithin.answer .date operand stored today = .ok (started && ending) := by
  rw [answer_of_coming (by decide : (_, Relation.atLeast) ∈ _) nothing,
    answer_of_coming (by decide : (_, Relation.atMost) ∈ _) asks, answer_within asks]
  cases has : stored.date? with
  | none =>
    obtain ⟨coming, -, within, -⟩ := Test.holds_of_undated has .atMost days today
    refine ⟨false, false, ?_, congrArg _ coming, congrArg _ within⟩
    exact congrArg _ (Test.holds_of_undated has .atLeast 0 today).1
  | some date =>
    rw [Test.holds_inDays has today.not_isOutside_zero, Test.holds_inDays has inside,
      Test.holds_within has some inside, add_zero]
    refine ⟨_, _, rfl, rfl, congrArg Except.ok ?_⟩
    rw [← Bool.decide_and, decide_eq_decide, Relation.Relates, Relation.Relates, Nat.cast_le]

theorem since_eq (asks : operand.AsksDays days) (nothing : none.AsksDays 0) (some : 1 ≤ days)
    (inside : ¬ today.IsOutside (-days)) : ∃ ended starting,
      Operator.daysAgoGte.answer .date none stored today = .ok ended ∧
      Operator.daysAgoLte.answer .date operand stored today = .ok starting ∧
      Operator.expiredSince.answer .date operand stored today = .ok (ended && starting) := by
  rw [answer_of_gone (by decide : (_, Relation.atMost) ∈ _) nothing,
    answer_of_gone (by decide : (_, Relation.atLeast) ∈ _) asks, answer_since asks]
  cases has : stored.date? with
  | none =>
    obtain ⟨-, gone, -, since⟩ := Test.holds_of_undated has .atLeast days today
    refine ⟨false, false, ?_, congrArg _ gone, congrArg _ since⟩
    exact congrArg _ (Test.holds_of_undated has .atMost 0 today).2.1
  | some date =>
    have same : ¬ today.IsOutside (-0) := today.not_isOutside_zero
    rw [Test.holds_daysAgo has same, Test.holds_daysAgo has inside,
      Test.holds_since has some inside, sub_zero]
    refine ⟨_, _, rfl, rfl, congrArg Except.ok ?_⟩
    rw [← Bool.decide_and, decide_eq_decide, Relation.Relates, Relation.Relates, Nat.cast_le]
    exact and_comm

theorem within_grows {shorter longer : Value} {more : ℤ} (asks : shorter.AsksDays days)
    (also : longer.AsksDays more) (some : 1 ≤ days) (most : days ≤ more)
    (inside : ¬ today.IsOutside more)
    (yes : Operator.expiresWithin.answer .date shorter stored today = .ok true) :
    Operator.expiresWithin.answer .date longer stored today = .ok true := by
  rw [answer_within asks] at yes
  rw [answer_within also]
  cases has : stored.date? with
  | none =>
    rw [(Test.holds_of_undated has .equal days today).2.2.1] at yes
    cases yes
  | some date =>
    have near : ¬ today.IsOutside days :=
      Date.not_isOutside_of_between (by omega) (by omega) inside
    rw [Test.holds_within has some near] at yes
    rw [Test.holds_within has (by omega) inside]
    have held := of_decide_eq_true (Except.ok.inj yes)
    exact congrArg Except.ok (decide_eq_true (by omega))

theorem since_grows {shorter longer : Value} {more : ℤ} (asks : shorter.AsksDays days)
    (also : longer.AsksDays more) (some : 1 ≤ days) (most : days ≤ more)
    (inside : ¬ today.IsOutside (-more))
    (yes : Operator.expiredSince.answer .date shorter stored today = .ok true) :
    Operator.expiredSince.answer .date longer stored today = .ok true := by
  rw [answer_since asks] at yes
  rw [answer_since also]
  cases has : stored.date? with
  | none =>
    rw [(Test.holds_of_undated has .equal days today).2.2.2] at yes
    cases yes
  | some date =>
    have near : ¬ today.IsOutside (-days) :=
      Date.not_isOutside_of_between (by omega) (by omega) inside
    rw [Test.holds_since has some near] at yes
    rw [Test.holds_since has (by omega) inside]
    have held := of_decide_eq_true (Except.ok.inj yes)
    exact congrArg Except.ok (decide_eq_true (by omega))

end

/-- What the operators that count days say of a stored value, in terms of one another. -/
structure DatesMirror (stored : Value) (today : Date) : Prop where
  /-- A number of days ago is the opposite number of days to come. -/
  mirrored : ∀ days forth back, forth.AsksDays days → back.AsksDays (-days) →
    ∀ pair ∈ mirroredOperators, MirrorOutcome days (pair.1.answer .date forth stored today)
      (pair.2.answer .date back stored today)
  /-- A span of days to come starts today and ends after them. -/
  within : ∀ days operand none, operand.AsksDays days → none.AsksDays 0 → 1 ≤ days →
    ¬ today.IsOutside days → ∃ started ending,
      Operator.expiresInDaysGte.answer .date none stored today = .ok started ∧
      Operator.expiresInDaysLte.answer .date operand stored today = .ok ending ∧
      Operator.expiresWithin.answer .date operand stored today = .ok (started && ending)
  /-- A span of days gone by ends today and starts before them. -/
  since : ∀ days operand none, operand.AsksDays days → none.AsksDays 0 → 1 ≤ days →
    ¬ today.IsOutside (-days) → ∃ ended starting,
      Operator.daysAgoGte.answer .date none stored today = .ok ended ∧
      Operator.daysAgoLte.answer .date operand stored today = .ok starting ∧
      Operator.expiredSince.answer .date operand stored today = .ok (ended && starting)
  /-- A longer span holds what a shorter one does. -/
  grows : ∀ days more shorter longer, shorter.AsksDays days → longer.AsksDays more → 1 ≤ days →
    days ≤ more →
      (¬ today.IsOutside more →
        Operator.expiresWithin.answer .date shorter stored today = .ok true →
          Operator.expiresWithin.answer .date longer stored today = .ok true) ∧
      (¬ today.IsOutside (-more) →
        Operator.expiredSince.answer .date shorter stored today = .ok true →
          Operator.expiredSince.answer .date longer stored today = .ok true)
  /-- A span without a day holds every date, and nothing else. -/
  empty : ∀ days operand, operand.AsksDays days → days ≤ 0 →
    Operator.expiresWithin.answer .date operand stored today = .ok stored.date?.isSome ∧
      Operator.expiredSince.answer .date operand stored today = .ok stored.date?.isSome
  /-- A filter on a declared date gives these answers, as far as it can be reported. -/
  verdicts : ∀ schema key spec values, AttributeSchema.get? schema key = some spec →
    spec.kind = .date → Fields.getOrNull values key = stored →
      ∀ operator ∈ AttributeKind.date.operators, operator.form .date = .days →
        ∀ days operand, operand.AsksDays days → ∃ outcome : Except Refusal Bool,
          operator.answer .date operand stored today = outcome.mapError .refused ∧
          schema.verdict key values today operator operand =
            (if Number.isOverlong days then .error .overlongNumber else outcome).mapError .ofRefusal

/-- The operators that count days mirror each other, whatever the stored value and the day. -/
theorem date_operators_mirror (stored : Value) (today : Date) : DatesMirror stored today where
  mirrored days forth back asks opposite pair among := by
    obtain ⟨relation, gone, coming⟩ := mirroredOperators_relation pair among
    rw [answer_of_gone gone asks, answer_of_coming coming opposite]
    exact .of_tests relation days stored today
  within days operand none asks nothing some inside := within_eq asks nothing some inside
  since days operand none asks nothing some inside := since_eq asks nothing some inside
  grows days more shorter longer asks also some most :=
    ⟨within_grows asks also some most, since_grows asks also some most⟩
  empty days operand asks none := by
    obtain ⟨within, since⟩ := Test.holds_of_empty_span none stored today
    rw [answer_within asks, answer_since asks, within, since]
    exact ⟨rfl, rfl⟩
  verdicts schema key spec values declared kind found operator allowed form days operand asks :=
    found ▸ AttributeSchema.verdict_of_days declared kind allowed form asks values today

theorem asksDays_int (days : ℤ) : (Value.int days).AsksDays days := Value.isInteger_iff.mp rfl

/-- What the mirror says of the twelfth of March, on the tenth: of a day to come and of one that is
far outside the calendar, of spans of a week and of none, and of a text that is no date. -/
theorem twelfth_mirrored :
    MirrorOutcome (-1) (Operator.daysAgoLt.answer .date (.int (-1)) (.text "2026-03-12") sampleDay)
      (Operator.expiresInDaysGt.answer .date (.int (- -1)) (.text "2026-03-12") sampleDay) ∧
    MirrorOutcome 999999999
      (Operator.daysAgoEq.answer .date (.int 999999999) (.text "2026-03-12") sampleDay)
      (Operator.expiresInDaysEq.answer .date (.int (-999999999)) (.text "2026-03-12") sampleDay) ∧
    (∃ started ending,
      Operator.expiresInDaysGte.answer .date (.int 0) (.text "2026-03-12") sampleDay = .ok started ∧
      Operator.expiresInDaysLte.answer .date (.int 7) (.text "2026-03-12") sampleDay = .ok ending ∧
      Operator.expiresWithin.answer .date (.int 7) (.text "2026-03-12") sampleDay =
        .ok (started && ending)) ∧
    (Operator.expiredSince.answer .date (.int 7) (.text "2026-03-12") sampleDay = .ok true →
      Operator.expiredSince.answer .date (.int 30) (.text "2026-03-12") sampleDay = .ok true) ∧
    Operator.expiredSince.answer .date (.int 0) (.text "2026-03-12") sampleDay = .ok true ∧
    Operator.expiresWithin.answer .date (.int (-3)) (.text "someday") sampleDay = .ok false := by
  have mirror := date_operators_mirror (.text "2026-03-12") sampleDay
  have near : ∀ days ∈ [7, -30], ¬ sampleDay.IsOutside days := by
    unfold Date.IsOutside sampleDay lastDay
    decide
  exact ⟨mirror.mirrored _ _ _ (asksDays_int _) (asksDays_int _) (.daysAgoLt, .expiresInDaysGt)
      (by decide),
    mirror.mirrored _ _ _ (asksDays_int _) (asksDays_int _) (.daysAgoEq, .expiresInDaysEq)
      (by decide),
    mirror.within 7 _ _ (asksDays_int 7) (asksDays_int 0) (by decide) (near 7 (by decide)),
    (mirror.grows 7 30 _ _ (asksDays_int 7) (asksDays_int 30) (by decide) (by decide)).2
      (near (-30) (by decide)),
    (mirror.empty 0 _ (asksDays_int 0) le_rfl).2,
    ((date_operators_mirror (.text "someday") sampleDay).empty (-3) _ (asksDays_int _)
      (by decide)).1⟩

end Herald
