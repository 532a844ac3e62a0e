import Herald.Proofs.Mirrors

/-! # Expiry dates of elements

An operator on the expiry dates in a list asks for one record of the list whose property is a date
that an operator on dates holds of. The rest of the list, the order and how often something is in it
do not matter.
-/

namespace Herald

/-! ## Operands -/

/-- An operand that names a property of elements, or names none and means the usual one. -/
def Value.AsksProperty (operand : Value) (name : String) : Prop :=
  (operand.field? "property" = some (.text name) ∧ name ≠ "") ∨
    ((∀ property ∈ operand.field? "property", property.isTruthy = false) ∧ name = "expiry")

theorem Operand.expiryProperty_of_asks {operand : Value} {name : String}
    (asks : operand.AsksProperty name) : expiryProperty operand = .text name := by
  rcases asks with ⟨named, filled⟩ | ⟨unnamed, rfl⟩
  · cases operand with
    | record fields =>
      have found : Fields.getOrNull fields "property" = .text name :=
        congrArg (fun found : Option Value => found.getD .null) named
      have truthy : (Value.text name).isTruthy = true := by
        simpa [Value.isTruthy] using filled
      rw [expiryProperty, found]
      exact if_pos truthy
    | _ => cases named
  · cases operand with
    | record fields =>
      have falsy : (Fields.getOrNull fields "property").isTruthy = false := by
        rw [Fields.getOrNull]
        cases found : Fields.get? fields "property" with
        | none => rfl
        | some property => exact unnamed property found
      exact if_neg (Bool.eq_false_iff.mp falsy)
    | _ => rfl

/-! ## Dates of elements -/

/-- A record of a list has a property with some quality. -/
def Value.SomeElement (items : List Value) (name : String) (quality : Value → Prop) : Prop :=
  ∃ fields, Value.record fields ∈ items ∧ quality (Fields.getOrNull fields name)

namespace Test

/-- The date that an element of a list has under a name. -/
def elementDate? (name : String) : Value → Option Date
  | .record fields => (Fields.getOrNull fields name).date?
  | _ => none

theorem elementDate?_eq_some_iff {name : String} {item : Value} {date : Date} :
    elementDate? name item = some date ↔
      ∃ fields, item = .record fields ∧ (Fields.getOrNull fields name).date? = some date := by
  cases item <;> simp [elementDate?]

theorem expiryDates_text (name : String) (items : List Value) :
    expiryDates (.text name) items = .ok (items.filterMap (elementDate? name)) := by
  induction items with
  | nil => rfl
  | cons item rest ih =>
    rcases item.record_or_plain with ⟨fields, rfl⟩ | plain
    · have read : property (.text name) fields = .ok (Fields.getOrNull fields name) := rfl
      rw [expiryDates, read, ih, List.filterMap_cons, elementDate?]
      dsimp only [bind, Except.bind]
      cases (Fields.getOrNull fields name).date? <;> rfl
    · have undated : elementDate? name item = none := by
        cases item with
        | record fields => exact absurd rfl (plain fields)
        | _ => rfl
      rw [fails_expiryDates_plain plain, ih, List.filterMap_cons, undated]

/-- Whether an element of a list has a day under a name that is sought. -/
def findsDay (name : String) (sought : ℤ → Prop) [DecidablePred sought] (items : List Value) :
    Bool :=
  (items.filterMap (elementDate? name)).any fun date => decide (sought date.day)

variable {name : String} {sought : ℤ → Prop} [DecidablePred sought] {items others : List Value}

theorem findsDay_iff : findsDay name sought items = true ↔
    Value.SomeElement items name fun value =>
      ∃ date, value.date? = some date ∧ sought date.day := by
  rw [findsDay, List.any_eq_true]
  constructor
  · rintro ⟨date, listed, found⟩
    obtain ⟨item, among, read⟩ := List.mem_filterMap.mp listed
    obtain ⟨fields, rfl, read⟩ := elementDate?_eq_some_iff.mp read
    exact ⟨fields, among, date, read, of_decide_eq_true found⟩
  · rintro ⟨fields, among, date, read, found⟩
    have listed := elementDate?_eq_some_iff.mpr ⟨fields, rfl, read⟩
    exact ⟨date, List.mem_filterMap.mpr ⟨_, among, listed⟩, decide_eq_true found⟩

/-- A day is found in every list with the dated records of a list that it is found in. -/
theorem findsDay_of_dated (kept : ∀ fields date, (Fields.getOrNull fields name).date? = some date →
    Value.record fields ∈ items → Value.record fields ∈ others)
    (finds : findsDay name sought items = true) : findsDay name sought others = true := by
  obtain ⟨fields, among, date, read, found⟩ := findsDay_iff.mp finds
  exact findsDay_iff.mpr ⟨fields, kept fields date read among, date, read, found⟩

end Test

/-! ## Lifted operators -/

/-- An operator on the expiry dates of elements, its operand, the property that this names, and what
the operators on dates have to say of that property. Days are in the calendar. -/
inductive LiftsDates (today : Date) : Operator → Value → String → (Value → Prop) → Prop
  | inDays {operand plain : Value} {name : String} {days : ℤ} (asks : operand.AsksDays days)
      (named : operand.AsksProperty name) (also : plain.AsksDays days)
      (inside : ¬ today.IsOutside days) :
      LiftsDates today .anyExpiryInDays operand name fun value =>
        Operator.expiresInDaysEq.answer .date plain value today = .ok true
  | within {operand plain none : Value} {name : String} {days : ℤ} (asks : operand.AsksDays days)
      (named : operand.AsksProperty name) (also : plain.AsksDays days) (nothing : none.AsksDays 0)
      (inside : ¬ today.IsOutside days) :
      LiftsDates today .anyExpiryWithin operand name fun value =>
        Operator.expiresInDaysGte.answer .date none value today = .ok true ∧
          Operator.expiresInDaysLte.answer .date plain value today = .ok true
  | since {operand plain none : Value} {name : String} {days : ℤ} (asks : operand.AsksDays days)
      (named : operand.AsksProperty name) (also : plain.AsksDays days) (nothing : none.AsksDays 0)
      (inside : ¬ today.IsOutside (-days)) :
      LiftsDates today .anyExpiryExpiredSince operand name fun value =>
        Operator.daysAgoGte.answer .date none value today = .ok true ∧
          Operator.daysAgoLte.answer .date plain value today = .ok true
  | after {operand plain : Value} {name : String} {day : Date}
      (asks : (operand.part "date").date? = some day) (named : operand.AsksProperty name)
      (also : plain.date? = some day) :
      LiftsDates today .anyExpiryAfter operand name fun value =>
        Operator.after.answer .date plain value today = .ok true
  | today {operand none : Value} {name : String} (named : operand.AsksProperty name)
      (nothing : none.AsksDays 0) :
      LiftsDates today .anyExpiryToday operand name fun value =>
        Operator.expiresInDaysEq.answer .date none value today = .ok true

section

variable {operator : Operator} {relation : Relation} {operand : Value} {days : ℤ} {today : Date}

/-- An operator on days to come holds of the dates in its relation to the day. -/
theorem answer_coming_iff (listed : (operator, relation) ∈ comingRelations)
    (asks : operand.AsksDays days) (inside : ¬ today.IsOutside days) (value : Value) :
    operator.answer .date operand value today = .ok true ↔
      ∃ date, value.date? = some date ∧ relation.Relates (date.day : ℤ) (today.day + days) := by
  rw [answer_of_coming listed asks]
  cases has : value.date? with
  | none =>
    rw [(Test.holds_of_undated has relation days today).1]
    exact iff_of_false nofun nofun
  | some date =>
    rw [Test.holds_inDays has inside]
    simp [Except.mapError]

/-- An operator on days gone by holds of the dates in its relation to the day. -/
theorem answer_gone_iff (listed : (operator, relation) ∈ goneRelations)
    (asks : operand.AsksDays days) (inside : ¬ today.IsOutside (-days)) (value : Value) :
    operator.answer .date operand value today = .ok true ↔
      ∃ date, value.date? = some date ∧ relation.Relates (date.day : ℤ) (today.day - days) := by
  rw [answer_of_gone listed asks]
  cases has : value.date? with
  | none =>
    rw [(Test.holds_of_undated has relation days today).2.1]
    exact iff_of_false nofun nofun
  | some date =>
    rw [Test.holds_daysAgo has inside]
    simp [Except.mapError]

theorem answer_after_iff {day : Date} (asks : operand.date? = some day) (value : Value) :
    Operator.after.answer .date operand value today = .ok true ↔
      ∃ date, value.date? = some date ∧ day.day < date.day := by
  have reads : Operand.test .date .after operand = .ok (.dated .greater day) := by
    change Operand.datedTest .greater operand = _
    rw [Operand.datedTest, Operand.date, asks]
    rfl
  rw [Operator.answer_of_test reads, Test.holds, Test.againstDate]
  cases value.date? with
  | none => simp [Except.mapError]
  | some date => simp [Except.map, Except.mapError, Relation.holdsOfDates_eq, Relation.Relates]

end

namespace Test

/-- A test of a list that can be reported and looks for a day among the dates of the elements. -/
structure Seeks (test : Test) (name : String) (today : Date) (sought : ℤ → Prop)
    [DecidablePred sought] : Prop where
  reportable : test.fault? = none
  holds : ∀ items, test.holds (.list items) today = .ok (findsDay name sought items)

variable {name : String} {today : Date} {days : ℤ}

/-- What names a text and a short number can be reported. -/
theorem fault?_of_short (short : Number.isOverlong days = false) :
    (depthFault? (.text name)).or (numberFault? days) = none := by
  rw [numberFault?, short]
  rfl

theorem seeks_inDays (inside : ¬ today.IsOutside days) :
    (Test.anyExpiryInDays (.text name) days).Seeks name today (· = today.day + days) where
  reportable := by rw [fault?, fault?_of_short (not_isOverlong_of_inside inside)]
  holds items := by
    obtain ⟨day, there, number⟩ := daysAfter_of_inside inside
    change holdsOfList (.anyExpiryInDays (.text name) days) items today = _
    rw [holdsOfList, there, expiryDates_text, findsDay, ← number]
    simp only [Nat.cast_inj]
    rfl

theorem seeks_within (inside : ¬ today.IsOutside days) :
    (Test.anyExpiryWithin (.text name) days).Seeks name today
      (fun day => today.day ≤ day ∧ day ≤ today.day + days) where
  reportable := by rw [fault?, fault?_of_short (not_isOverlong_of_inside inside)]
  holds items := by
    obtain ⟨last, there, number⟩ := daysAfter_of_inside inside
    change holdsOfList (.anyExpiryWithin (.text name) days) items today = _
    rw [holdsOfList, there, expiryDates_text, findsDay, ← number]
    simp only [Nat.cast_le]
    rfl

theorem seeks_since (inside : ¬ today.IsOutside (-days)) :
    (Test.anyExpirySince (.text name) days).Seeks name today
      (fun day => today.day - days ≤ day ∧ day ≤ today.day) where
  reportable := by
    rw [fault?, fault?_of_short (isOverlong_neg days ▸ not_isOverlong_of_inside inside)]
  holds items := by
    obtain ⟨first, there, number⟩ := daysBefore_of_inside inside
    change holdsOfList (.anyExpirySince (.text name) days) items today = _
    rw [holdsOfList, there, expiryDates_text, findsDay, ← number]
    simp only [Nat.cast_le]
    rfl

theorem seeks_after (day : Date) :
    (Test.anyExpiryAfter (.text name) day).Seeks name today (fun number => day.day < number) where
  reportable := rfl
  holds items := by
    change holdsOfList (.anyExpiryAfter (.text name) day) items today = _
    rw [holdsOfList, expiryDates_text, findsDay]
    simp only [Nat.cast_lt]
    rfl

theorem seeks_today : (Test.anyExpiryToday (.text name)).Seeks name today (· = today.day) where
  reportable := rfl
  holds items := by
    change holdsOfList (.anyExpiryToday (.text name)) items today = _
    rw [holdsOfList, expiryDates_text, findsDay]
    simp only [Nat.cast_inj]
    rfl

end Test

/-- A value has one date at most. -/
theorem Value.exists_date_and {value : Value} {first second : Date → Prop} :
    ((∃ date, value.date? = some date ∧ first date) ∧
      ∃ date, value.date? = some date ∧ second date) ↔
        ∃ date, value.date? = some date ∧ first date ∧ second date := by
  cases value.date? <;> simp

/-- What a lifted operator looks for among the dates of the elements is what the operators on dates
have to say of a property. -/
theorem LiftsDates.seeks {today : Date} {operator : Operator} {operand : Value} {name : String}
    {quality : Value → Prop} (lifts : LiftsDates today operator operand name quality) :
    ∃ (test : Test) (sought : ℤ → Prop) (_ : DecidablePred sought),
      Operand.test .array operator operand = .ok test ∧ test.Seeks name today sought ∧
        ∀ value, quality value ↔ ∃ date, value.date? = some date ∧ sought date.day := by
  cases lifts with
  | @inDays _ plain _ days asks named also inside =>
    refine ⟨_, _, inferInstance, ?_, Test.seeks_inDays inside, fun value =>
      answer_coming_iff (by decide : (_, Relation.equal) ∈ _) also inside value⟩
    change Operand.expiryTest .anyExpiryInDays operand = _
    rw [Operand.expiryTest, Operand.days_eq_ok_iff.mpr asks, Operand.expiryProperty_of_asks named]
    rfl
  | @within _ plain none _ days asks named also nothing inside =>
    refine ⟨_, _, inferInstance, ?_, Test.seeks_within inside, fun value => ?_⟩
    · change Operand.expiryTest .anyExpiryWithin operand = _
      rw [Operand.expiryTest, Operand.days_eq_ok_iff.mpr asks, Operand.expiryProperty_of_asks named]
      rfl
    · dsimp only
      have same := today.not_isOutside_zero
      rw [answer_coming_iff (by decide : (_, Relation.atLeast) ∈ _) nothing same,
        answer_coming_iff (by decide : (_, Relation.atMost) ∈ _) also inside, add_zero,
        Value.exists_date_and]
      rfl
  | @since _ plain none _ days asks named also nothing inside =>
    refine ⟨_, _, inferInstance, ?_, Test.seeks_since inside, fun value => ?_⟩
    · change Operand.expiryTest .anyExpirySince operand = _
      rw [Operand.expiryTest, Operand.days_eq_ok_iff.mpr asks, Operand.expiryProperty_of_asks named]
      rfl
    · have same : ¬ today.IsOutside (-0) := today.not_isOutside_zero
      dsimp only
      rw [and_comm, answer_gone_iff (by decide : (_, Relation.atLeast) ∈ _) also inside,
        answer_gone_iff (by decide : (_, Relation.atMost) ∈ _) nothing same, sub_zero,
        Value.exists_date_and]
      rfl
  | @after _ plain _ day asks named also =>
    refine ⟨_, _, inferInstance, ?_, Test.seeks_after day, fun value => ?_⟩
    · change (Operand.propertyDate operand).map _ = _
      rw [Operand.propertyDate_eq, Operand.date, asks, Operand.expiryProperty_of_asks named]
      rfl
    · simpa using answer_after_iff also value
  | @today _ none _ named nothing =>
    refine ⟨_, _, inferInstance, ?_, Test.seeks_today, fun value => ?_⟩
    · change Except.ok (Test.anyExpiryToday (Operand.expiryProperty operand)) = _
      rw [Operand.expiryProperty_of_asks named]
    · dsimp only
      rw [answer_coming_iff (by decide : (_, Relation.equal) ∈ _) nothing today.not_isOutside_zero,
        add_zero]
      rfl

theorem LiftsDates.allowed {today : Date} {operator : Operator} {operand : Value} {name : String}
    {quality : Value → Prop} (lifts : LiftsDates today operator operand name quality) :
    operator ∈ AttributeKind.array.operators := by
  cases lifts <;> decide

/-- A lifted operator finds a day in a list, which it does exactly if the operators on dates hold of
the property of an element. -/
theorem LiftsDates.answers {today : Date} {operator : Operator} {operand : Value} {name : String}
    {quality : Value → Prop} (lifts : LiftsDates today operator operand name quality) :
    ∃ (sought : ℤ → Prop) (_ : DecidablePred sought), ∀ items,
      operator.answer .array operand (.list items) today = .ok (Test.findsDay name sought items) ∧
      (Test.findsDay name sought items = true ↔ Value.SomeElement items name quality) ∧
      ∀ schema key spec values, AttributeSchema.get? schema key = some spec → spec.kind = .array →
        Fields.getOrNull values key = .list items →
          schema.verdict key values today operator operand =
            .ok (Test.findsDay name sought items) := by
  obtain ⟨test, sought, _, reads, seeks, dated⟩ := lifts.seeks
  refine ⟨sought, inferInstance, fun items => ⟨?_, ?_, ?_⟩⟩
  · rw [Operator.answer_of_test reads, seeks.holds]
    rfl
  · rw [Test.findsDay_iff, funext fun value => propext (dated value)]
  · intro schema key spec values declared kind stored
    have allowed : operator ∈ spec.kind.operators := kind ▸ lifts.allowed
    rw [AttributeSchema.verdict_of_stored declared allowed stored nofun (kind ▸ reads)
      seeks.reportable, seeks.holds]
    rfl

/-- The operators on the expiry dates in a list are the operators on dates lifted to elements: one
holds exactly if the operators on dates hold of the property of one record. So only the records that
have a date are looked at, and neither their order nor how often each of them is there; and what is
appended to a list that the operator holds of does not matter. A filter on a declared list gives
these answers. -/
theorem expiry_operators_lift {today : Date} {operator : Operator} {operand : Value} {name : String}
    {quality : Value → Prop} (lifts : LiftsDates today operator operand name quality) :
    (∀ items, ∃ answer, operator.answer .array operand (.list items) today = .ok answer ∧
      (answer = true ↔ Value.SomeElement items name quality)) ∧
    (∀ items others, (∀ fields date, (Fields.getOrNull fields name).date? = some date →
      (Value.record fields ∈ items ↔ Value.record fields ∈ others)) →
        operator.answer .array operand (.list items) today =
          operator.answer .array operand (.list others) today) ∧
    (∀ items more, operator.answer .array operand (.list items) today = .ok true →
      operator.answer .array operand (.list (items ++ more)) today = .ok true) ∧
    ∀ schema key spec values items answer, AttributeSchema.get? schema key = some spec →
      spec.kind = .array → Fields.getOrNull values key = .list items →
        operator.answer .array operand (.list items) today = .ok answer →
          schema.verdict key values today operator operand = .ok answer := by
  obtain ⟨sought, _, answers⟩ := lifts.answers
  refine ⟨fun items => ?_, fun items others same => ?_, fun items more holds => ?_, ?_⟩
  · obtain ⟨answer, iff, -⟩ := answers items
    exact ⟨_, answer, iff⟩
  · rw [(answers items).1, (answers others).1]
    refine congrArg Except.ok (Bool.eq_iff_iff.mpr ⟨Test.findsDay_of_dated ?_,
      Test.findsDay_of_dated ?_⟩)
    · exact fun fields date read => (same fields date read).mp
    · exact fun fields date read => (same fields date read).mpr
  · rw [(answers _).1] at holds ⊢
    have kept : ∀ fields : Fields, Value.record fields ∈ items →
        Value.record fields ∈ items ++ more := fun _ => List.mem_append_left more
    exact congrArg Except.ok
      (Test.findsDay_of_dated (fun fields _ _ => kept fields) (Except.ok.inj holds))
  · intro schema key spec values items answer declared kind stored answered
    obtain ⟨found, -, verdict⟩ := answers items
    rw [verdict schema key spec values declared kind stored]
    cases found.symm.trans answered
    rfl

/-- Tags, one of which expires on the twelfth of March 2026 and is valid from the first. -/
def sampleTags : List Value :=
  [.text "vip", .record [("expiry", .text "someday")],
    .record [("expiry", .text "2026-03-12"), ("start", .text "2026-03-01")]]

/-- A tag expires within a week, none starts within one, and in reverse the tags are the same. -/
theorem tags_expire_within :
    samplePoints.verdict "tags" [("tags", .list sampleTags)] sampleDay .anyExpiryWithin (.int 7) =
      .ok true ∧
    samplePoints.verdict "tags" [("tags", .list sampleTags)] sampleDay .anyExpiryWithin
      (.record [("days", .int 7), ("property", .text "start")]) = .ok false ∧
    Operator.anyExpiryWithin.answer .array (.int 7) (.list sampleTags.reverse) sampleDay =
      Operator.anyExpiryWithin.answer .array (.int 7) (.list sampleTags) sampleDay := by
  have near : ¬ sampleDay.IsOutside 7 := by
    unfold Date.IsOutside sampleDay lastDay
    decide
  have asks : (Value.record [("days", .int 7), ("property", .text "start")]).AsksDays 7 :=
    Value.isInteger_iff.mp rfl
  obtain ⟨expires, alike, -, verdict⟩ := expiry_operators_lift
    (.within (asksDays_int 7) (.inr ⟨nofun, rfl⟩) (asksDays_int 7) (asksDays_int 0) near)
  obtain ⟨starts, -, -, verdict'⟩ := expiry_operators_lift
    (.within asks (.inl ⟨rfl, by decide⟩) (asksDays_int 7) (asksDays_int 0) near)
  refine ⟨?_, ?_, alike _ _ fun fields _ _ => by rw [List.mem_reverse]⟩
  · obtain ⟨answer, answered, iff⟩ := expires sampleTags
    obtain rfl : answer = true := iff.mpr ⟨_, List.mem_of_getElem? (i := 2) rfl, rfl, rfl⟩
    exact verdict _ _ _ _ _ _ rfl rfl rfl answered
  · obtain ⟨answer, answered, iff⟩ := starts sampleTags
    have absent : Operator.expiresInDaysGte.answer .date (.int 0) .null sampleDay = .ok false := rfl
    have past : Operator.expiresInDaysGte.answer .date (.int 0) (.text "2026-03-01") sampleDay =
      .ok false := rfl
    obtain rfl : answer = false := by
      refine Bool.eq_false_iff.mpr fun yes => ?_
      obtain ⟨fields, among, coming, -⟩ := iff.mp yes
      simp only [sampleTags, List.mem_cons, reduceCtorEq, Value.record.injEq, List.not_mem_nil,
        false_or, or_false] at among
      rcases among with rfl | rfl
      · exact nomatch absent.symm.trans coming
      · exact nomatch past.symm.trans coming
    exact verdict' _ _ _ _ _ _ rfl rfl rfl answered

end Herald