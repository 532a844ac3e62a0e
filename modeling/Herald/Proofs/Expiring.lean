import Herald.Proofs.Builtins
import Herald.Proofs.Mirrors
import Herald.Proofs.Streaming

/-! # Days until expiry

A service has the day on which it expires as a column and the days until then as a number that is
worked out from it. A filter on the one selects the same services as a filter on the other, whatever
the time of day.
-/

namespace Herald

/-! ## Predicates that agree -/

namespace Audience

variable {σ α β : Type} {audience : Audience} {other : Predicate} {limit : Option Int}
  {visit : β → TargetRecord → Steady σ α (Visit β)}

/-- The same targets on the same day under another predicate. -/
def under (audience : Audience) (other : Predicate) : Audience :=
  { audience with predicate := other }

/-- Another predicate says the same of all targets that there may be. -/
def AgreesWith (audience : Audience) (other : Predicate) : Prop :=
  ∀ target : Target,
    audience.predicate.holds (target.attributes audience.kind audience.today) audience.today =
      other.holds (target.attributes audience.kind audience.today) audience.today

theorem walkRecords_congr (agrees : audience.AgreesWith other) (targets : List Target) (found : β)
    (visited : Nat) :
    audience.walkRecords limit visit (targets.map (Target.record audience.kind · audience.today))
        found visited =
      (audience.under other).walkRecords limit visit
        (targets.map (Target.record audience.kind · audience.today)) found visited := by
  induction targets generalizing found visited with
  | nil => rfl
  | cons target rest ih =>
    have same : audience.predicate.holds (target.record audience.kind audience.today).attributes
          audience.today =
        (audience.under other).predicate.holds
          (target.record audience.kind audience.today).attributes (audience.under other).today :=
      agrees target
    rw [List.map_cons, walkRecords, walkRecords, same]
    split
    · rfl
    · exact ih found visited
    · refine bind_congr fun answer => ?_
      split
      · rfl
      · rfl
      · split
        · rfl
        · exact ih _ _

theorem walkAfter_congr (agrees : audience.AgreesWith other) (size : Int) (batches : Nat) (id : Int)
    (found : β) (visited : Nat) :
    audience.walkAfter size limit visit batches id found visited =
      (audience.under other).walkAfter size limit visit batches id found visited := by
  induction batches generalizing id found visited with
  | zero => rfl
  | succ batches ih =>
    rw [walkAfter, walkAfter]
    -- A batch is read without the predicate, which is only asked about the records in it.
    refine bind_congr fun read => ?_
    cases read with
    | error failure => rfl
    | ok targets =>
      dsimp only
      cases targets.getLast? with
      | none => rfl
      | some last =>
        dsimp only
        rw [walkRecords_congr agrees]
        refine bind_congr fun walked => ?_
        cases walked with
        | more found visited => exact ih last.id found visited
        | done found => rfl
        | failed found failure => rfl

/-- Predicates that agree match the same targets, whatever the world. -/
theorem matching_congr (agrees : audience.AgreesWith other) (size : Int) (limit : Option Int) :
    (audience.matching size limit : Run σ α (List TargetRecord)) =
      (audience.under other).matching size limit := by
  have walks : ∀ (visit : List TargetRecord → TargetRecord → Steady σ α (Visit (List TargetRecord)))
      (start : List TargetRecord), audience.walk size limit visit start =
        (audience.under other).walk size limit visit start := by
    intro visit start
    rw [walk, walk]
    split
    · rfl
    · refine bind_congr fun world => ?_
      dsimp only
      rw [walkAfter_congr agrees]
      rfl
  rw [matching, matching, fold, fold, walks]

end Audience

/-! ## The two attributes -/

namespace Relation

theorem relates_intCast {a b : ℤ} (relation : Relation) :
    relation.Relates (a : ℚ) b ↔ relation.Relates a b := by
  cases relation <;> simp [Relates]

/-- A distance relates to a number as its end does to the day so many days from its start. -/
theorem relates_sub {last first days : ℤ} (relation : Relation) :
    relation.Relates (last - first) days ↔ relation.Relates last (first + days) := by
  cases relation <;> simp only [Relates] <;> omega

end Relation

/-- Whether a service expires on a day whose distance from today relates to a number of days. -/
def Target.expiresIn (relation : Relation) (days : ℤ) (today : Date) (target : Target) : Bool :=
  target.expiryAt.any fun moment => relation.Relates ((moment.date.day : ℤ) - today.day) days

theorem Predicate.holds_of_verdict {schema : AttributeSchema} {key : String} {operator : Operator}
    {operand : Value} {predicate : Predicate} {values : Fields} {today : Date} {answer : Bool}
    (compiles : compile schema (operator.on key operand) = .ok predicate)
    (verdict : schema.verdict key values today operator operand = .ok answer) :
    predicate.holds values today = .ok answer := by
  rw [AttributeSchema.verdict, compiles] at verdict
  change (predicate.holds values today).mapError Failure.ofRefusal = .ok answer at verdict
  cases holds : predicate.holds values today with
  | error refusal =>
    rw [holds] at verdict
    cases verdict
  | ok found =>
    rw [holds] at verdict
    cases verdict
    rfl

/-- The operators on the number of days until expiry, each with the one on the expiry date that asks
the same. -/
def expiryFilters : List (Operator × Operator × Relation) :=
  [(.equals, .expiresInDaysEq, .equal), (.greaterThan, .expiresInDaysGt, .greater),
    (.greaterThanOrEqual, .expiresInDaysGte, .atLeast), (.lessThan, .expiresInDaysLt, .less),
    (.lessThanOrEqual, .expiresInDaysLte, .atMost)]

theorem expiryFilters_listed : ∀ entry ∈ expiryFilters,
    (entry.1, entry.2.2) ∈ numberRelations ∧ (entry.2.1, entry.2.2) ∈ comingRelations := by
  decide

namespace AttributeSchema

/-- A schema of services that knows the two attributes as they are built in. -/
structure KnowsExpiry (schema : AttributeSchema) : Prop where
  target : schema.target = .service
  computed : schema.get? "days_until_expiry" = some (.ofBuiltin "days_until_expiry" .number)
  stored : schema.get? "expiry_at" = some (.ofBuiltin "expiry_at" .date)

theorem knowsExpiry_of_schemaOf {tenant : String} {rows : List Definition}
    {schema : AttributeSchema} (loaded : Registry.schemaOf tenant "service" rows = .ok schema) :
    schema.KnowsExpiry := by
  obtain ⟨-, named, builtins⟩ := Registry.builtins_of_schemaOf loaded
  have service : schema.target = .service := by
    cases kind : schema.target with
    | service => rfl
    | customer => simp [kind, TargetKind.name] at named
  rw [service] at builtins
  exact ⟨service, builtins (.ofBuiltin "days_until_expiry" .number) (by decide),
    builtins (.ofBuiltin "expiry_at" .date) (by decide)⟩

variable {schema : AttributeSchema} {operator : Operator} {relation : Relation} {operand : Value}
  {days : ℤ} {today : Date}

theorem KnowsExpiry.accepts_computed (knows : schema.KnowsExpiry)
    (listed : (operator, relation) ∈ numberRelations) (denotes : operand.Denotes days) :
    schema.Accepts "days_until_expiry" operator operand := by
  obtain ⟨allowed, form, -⟩ := numberRelations_allowed _ listed
  obtain ⟨decimal, reads, -, -⟩ := Value.denotes_iff.mp denotes
  rw [accepts_iff knows.computed allowed]
  dsimp only [AttributeSpec.ofBuiltin]
  rw [form]
  exact ⟨⟨decimal, reads⟩, id, id⟩

theorem KnowsExpiry.accepts_stored (knows : schema.KnowsExpiry)
    (listed : (operator, relation) ∈ comingRelations) (asks : operand.AsksDays days)
    (inside : ¬ today.IsOutside days) : schema.Accepts "expiry_at" operator operand := by
  obtain ⟨allowed, form⟩ := comingRelations_allowed _ listed
  obtain ⟨admits, sound⟩ := Operand.days_settles.ok_iff.mp ⟨days, Operand.days_eq_ok_iff.mpr asks⟩
  rw [accepts_iff knows.stored allowed]
  dsimp only [AttributeSpec.ofBuiltin]
  rw [form]
  refine ⟨admits, sound, ?_⟩
  rintro ⟨other, also, long⟩
  rw [also.unique asks, not_isOverlong_of_inside inside] at long
  cases long

/-- What an operator says of the number of days until expiry. -/
theorem KnowsExpiry.verdict_computed (knows : schema.KnowsExpiry)
    (listed : (operator, relation) ∈ numberRelations) (denotes : operand.Denotes days)
    (target : Target) :
    schema.verdict "days_until_expiry" (target.attributes .service today) today operator operand =
      .ok (target.expiresIn relation days today) := by
  have column : ("days_until_expiry", Target.ofIntOption (target.daysUntilExpiry today)) ∈
      target.builtinFields .service today := List.mem_of_getElem? (i := 9) rfl
  have found := Target.getOrNull_attributes column
  dsimp only at found
  have needs := (numberRelations_allowed _ listed).2.2
  rw [Target.expiresIn]
  rw [Target.daysUntilExpiry] at found
  cases expires : target.expiryAt with
  | none =>
    -- The number of days is absent as well, and these operators need one.
    rw [expires] at found
    exact verdict_of_absent knows.computed (numberRelations_allowed _ listed).1
      (knows.accepts_computed listed denotes) found needs
  | some moment =>
    rw [expires] at found
    have has : (Value.int ((moment.date.day : ℤ) - today.day)).Denotes
      (((moment.date.day : ℤ) - today.day : ℤ) : ℚ) := .int _
    rw [verdict_of_relation knows.computed rfl found has denotes listed]
    exact congrArg Except.ok (decide_eq_decide.mpr relation.relates_intCast)

/-- What an operator says of the expiry date. -/
theorem KnowsExpiry.verdict_stored (knows : schema.KnowsExpiry)
    (listed : (operator, relation) ∈ comingRelations) (asks : operand.AsksDays days)
    (inside : ¬ today.IsOutside days) (target : Target) :
    schema.verdict "expiry_at" (target.attributes .service today) today operator operand =
      .ok (target.expiresIn relation days today) := by
  have column : ("expiry_at", Target.ofMomentOption target.expiryAt) ∈
      target.builtinFields .service today := List.mem_of_getElem? (i := 7) rfl
  have found := Target.getOrNull_attributes column
  dsimp only at found
  obtain ⟨allowed, form⟩ := comingRelations_allowed _ listed
  refine verdict_of_answer knows.stored rfl allowed form asks (not_isOverlong_of_inside inside) ?_
  rw [answer_of_coming listed asks, found, Target.expiresIn]
  cases target.expiryAt with
  | none => rfl
  | some moment =>
    have dated : (Target.ofMomentOption (some moment)).date? = some moment.date := rfl
    rw [Test.holds_inDays dated inside]
    exact congrArg Except.ok (decide_eq_decide.mpr relation.relates_sub.symm)

end AttributeSchema

/-! ## Filters -/

/-- The targets of a tenant that match, in a list. -/
def matchingTargets {σ α : Type} (tenant : String) (predicate : Predicate) (size : Int)
    (limit : Option Int) : Run σ α (List TargetRecord) := do
  (← audienceOf tenant predicate).matching size limit

/-- The services of a tenant that match on a day. -/
def servicesOf (tenant : String) (predicate : Predicate) (today : Date) : Audience :=
  ⟨tenant, .service, predicate, today⟩

section

variable {σ α : Type} {world : World σ α} {tenant : String} {predicate other : Predicate}
  {size : Int} {limit : Option Int}
  {after : Except Failure (List TargetRecord) → World σ α → Prop}

theorem matchingTargets_ends (service : predicate.target = .service) :
    Ends (matchingTargets tenant predicate size limit) world after ↔
      Ends ((servicesOf tenant predicate world.now.date).matching size limit) world after := by
  rw [matchingTargets, audienceOf, ends_bind, ends_bind, ends_clock, service]
  exact Iff.rfl

/-- Two predicates on services that say the same on the day match the same services. -/
theorem matchingTargets_congr (service : predicate.target = .service)
    (also : other.target = .service)
    (agrees : ∀ target : Target,
      predicate.holds (target.attributes .service world.now.date) world.now.date =
        other.holds (target.attributes .service world.now.date) world.now.date) :
    Ends (matchingTargets tenant predicate size limit) world after ↔
      Ends (matchingTargets tenant other size limit) world after := by
  have same : (servicesOf tenant predicate world.now.date).AgreesWith other := agrees
  rw [matchingTargets_ends service, matchingTargets_ends also, Audience.matching_congr same]
  rfl

/-- A predicate that always decides matches the services of the tenant that it chooses, in the order
of their ids. -/
theorem matchingTargets_chosen (service : predicate.target = .service) {chooses : Target → Bool}
    (holds : ∀ target : Target,
      predicate.holds (target.attributes .service world.now.date) world.now.date =
        .ok (chooses target))
    (positive : 1 ≤ size) (fits : Cell.fits size = true) (created : world.store.created = true)
    (ascending : Ascending ((world.store.targets .service).map Target.id)) :
    Ends (matchingTargets tenant predicate size limit) world fun result after =>
      after = world ∧ ∃ found, result = .ok (Audience.cut limit found) ∧
        (found.map TargetRecord.id).Pairwise (· < ·) ∧
        ∀ record, record ∈ found ↔ ∃ target ∈ world.store.targets .service,
          target.tenant = tenant ∧ target.record .service world.now.date = record ∧
            chooses target = true := by
  rw [matchingTargets_ends service]
  have decides : ∀ record ∈ (servicesOf tenant predicate world.now.date).records 0 world.store,
      (servicesOf tenant predicate world.now.date).Decides record := by
    intro record member
    obtain ⟨target, -, rfl⟩ := List.mem_map.mp member
    exact ⟨_, holds target⟩
  refine (Audience.matching_ends positive fits created ascending decides).mono ?_
  rintro _ after ⟨same, rfl⟩
  refine ⟨same, _, rfl, Audience.selected_increasing ascending, fun record => ?_⟩
  rw [Audience.mem_selected ascending]
  refine exists_congr fun target => and_congr_right fun _ => and_congr_right fun _ =>
    and_congr_right ?_
  rintro rfl
  change predicate.holds (target.attributes .service world.now.date) world.now.date = _ ↔ _
  rw [holds target, Except.ok.injEq]

end

/-- Days until expiry and the expiry date are one and the same to a filter. A tenant's schema of
services takes both filters, whatever the tenant has declared; and on a day from which so many days
lead to a day in the calendar both match the same services, in whatever world they are run. If the
ids of the services ascend, these are the ones of the tenant whose expiry date is so far from today,
one that never expires being none of them. -/
theorem expiry_filters_agree {σ α : Type} {tenant : String} {rows : List Definition}
    {schema : AttributeSchema} (loaded : Registry.schemaOf tenant "service" rows = .ok schema)
    {days : ℤ} {number operand : Value} (denotes : number.Denotes days)
    (asks : operand.AsksDays days) {world : World σ α} (inside : ¬ world.now.date.IsOutside days) :
    ∀ entry ∈ expiryFilters, ∃ computed stored : Predicate,
      Predicate.compile schema (entry.1.on "days_until_expiry" number) = .ok computed ∧
      Predicate.compile schema (entry.2.1.on "expiry_at" operand) = .ok stored ∧
      (∀ size limit after, Ends (matchingTargets tenant computed size limit) world after ↔
        Ends (matchingTargets tenant stored size limit) world after) ∧
      ∀ size limit, 1 ≤ size → Cell.fits size = true → world.store.created = true →
        Ascending ((world.store.targets .service).map Target.id) →
          Ends (matchingTargets tenant computed size limit) world fun result after =>
            after = world ∧ ∃ found, result = .ok (Audience.cut limit found) ∧
              (found.map TargetRecord.id).Pairwise (· < ·) ∧
              ∀ record, record ∈ found ↔ ∃ target ∈ world.store.targets .service,
                target.tenant = tenant ∧ target.record .service world.now.date = record ∧
                  target.expiresIn entry.2.2 days world.now.date = true := by
  rintro ⟨first, second, relation⟩ listed
  obtain ⟨numbers, dates⟩ := expiryFilters_listed _ listed
  have knows := AttributeSchema.knowsExpiry_of_schemaOf loaded
  obtain ⟨computed, compiles⟩ := knows.accepts_computed numbers denotes
  obtain ⟨stored, compiled⟩ := knows.accepts_stored dates asks inside
  have service : computed.target = .service :=
    (Predicate.binds_of_compile compiles).2.1.trans knows.target
  have also : stored.target = .service :=
    (Predicate.binds_of_compile compiled).2.1.trans knows.target
  have holds : ∀ target : Target,
      computed.holds (target.attributes .service world.now.date) world.now.date =
        .ok (target.expiresIn relation days world.now.date) := fun target =>
    Predicate.holds_of_verdict compiles (knows.verdict_computed numbers denotes target)
  have agrees : ∀ target : Target,
      stored.holds (target.attributes .service world.now.date) world.now.date =
        .ok (target.expiresIn relation days world.now.date) := fun target =>
    Predicate.holds_of_verdict compiled (knows.verdict_stored dates asks inside target)
  refine ⟨computed, stored, compiles, compiled, ?_, ?_⟩
  · intro size limit after
    exact matchingTargets_congr service also fun target => (holds target).trans (agrees target).symm
  · intro size limit positive fits created ascending
    exact matchingTargets_chosen service holds positive fits created ascending

namespace Sample

/-- Ten in the evening of the second day. -/
def lateEvening : Moment := ⟨dayMicros + 1320 * minuteMicros, by decide⟩

/-- Six in the morning of the third day, eight hours later. -/
def earlyMorning : Moment := ⟨2 * dayMicros + 360 * minuteMicros, by decide⟩

/-- A service that expires at a moment, or never. -/
def service (id : Int) (expiryAt : Option Moment) : Target :=
  ⟨id, "t", none, none, none, none, [], lateEvening, lateEvening, none, expiryAt, none⟩

/-- In the evening there is a service that expires in the morning, one that expires now, and one
that never does. -/
def expiring : World Unit Binary64 :=
  ⟨{ (.empty : Store Binary64) with
    services := [service 1 (some earlyMorning), service 2 (some lateEvening), service 3 none] },
    lateEvening, [], ()⟩

/-- The schema of services of which nothing is declared. -/
def bareServices : AttributeSchema := ⟨"t", .service, TargetKind.service.builtins⟩

end Sample

/-- Both filters find the service that expires tomorrow, although that is in eight hours. -/
theorem expiring_tomorrow :
    ∃ computed stored : Predicate,
      Predicate.compile Sample.bareServices (Operator.equals.on "days_until_expiry" (.int 1)) =
        .ok computed ∧
      Predicate.compile Sample.bareServices (Operator.expiresInDaysEq.on "expiry_at" (.int 1)) =
        .ok stored ∧
      Ends (matchingTargets "t" stored 500 none) Sample.expiring fun result after =>
        after = Sample.expiring ∧ ∃ found, result = .ok found ∧ ∀ record, record ∈ found ↔
          record = (Sample.service 1 (some Sample.earlyMorning)).record .service
            Sample.lateEvening.date := by
  have inside : ¬ Sample.expiring.now.date.IsOutside 1 := by
    unfold Date.IsOutside lastDay
    decide
  have loaded : Registry.schemaOf "t" "service" [] = .ok Sample.bareServices := rfl
  obtain ⟨computed, stored, compiles, compiled, agree, ends⟩ := expiry_filters_agree loaded
    (.int 1) (asksDays_int 1) inside (.equals, .expiresInDaysEq, .equal) (by decide)
  refine ⟨computed, stored, compiles, compiled, (agree 500 none _).mp ?_⟩
  have ascending : Ascending ((Sample.expiring.store.targets .service).map Target.id) := by
    unfold Ascending
    decide
  refine (ends 500 none (by decide) (by decide) rfl ascending).mono ?_
  rintro result after ⟨same, found, rfl, -, among⟩
  refine ⟨same, found, rfl, fun record => ?_⟩
  rw [among]
  have tomorrow : ∀ target ∈ Sample.expiring.store.targets .service,
      target.expiresIn .equal 1 Sample.lateEvening.date = true →
        target = Sample.service 1 (some Sample.earlyMorning) := by
    intro target member expires
    simp only [Sample.expiring, Store.targets, List.mem_cons, List.not_mem_nil, or_false] at member
    rcases member with rfl | rfl | rfl
    · rfl
    · exact absurd expires (by decide)
    · exact absurd expires (by decide)
  constructor
  · rintro ⟨target, member, -, rfl, expires⟩
    rw [tomorrow target member expires]
    rfl
  · rintro rfl
    exact ⟨Sample.service 1 (some Sample.earlyMorning), List.mem_cons_self, rfl, rfl, by decide⟩

end Herald