import Herald.Proofs.Passing
import Herald.Target.Upsert

/-! # Histories

A history is a list of events in the life of a database, from its empty tables on: what operators
and tenants do, what the scheduler runs, and time. Any engine may run any pass, and an event that
fails leaves behind what it had written by then. What every event respects holds between any two
worlds of a history.
-/

namespace Herald

variable {σ α β : Type} [Amount α]

/-- The world that an action leaves behind, however it ends. -/
def Run.worldAfter (action : Run σ α β) (world : World σ α) : World σ α := (action.run.run world).2

omit [Amount α] in
/-- What is told of an action is nothing to the world behind it. -/
theorem Run.worldAfter_then (action : Run σ α β) {γ : Type} (value : γ) (world : World σ α) :
    Run.worldAfter (do let _ ← action; return value) world = action.worldAfter world := by
  have ends : Ends action world fun _ after => after = action.worldAfter world := rfl
  change Ends (do let _ ← action; return value) world fun _ after => after = action.worldAfter world
  rw [ends_bind]
  refine Leads.mono ends fun result after same => ?_
  cases result <;> exact same

/-- One thing that happens in the life of a database. -/
inductive Event (σ α : Type)
  | execute (engine : OperatedEngine σ α) (id : Int)
  | tick (engine : OperatedEngine σ α)
  | expire (id : Int) (now : Moment)
  | operate (action : OperatorAction)
  | create (tenant : String) (draft : Draft)
  | credit (tenant : String) (amount : Decimal)
  | define (tenant target : String) (spec : AttributeSpec)
  | upsert (schema : AttributeSchema) (data : Fields) (externalId : Value) (fields : Fields)
  | cleanup (days : Cell)
  | elapse (now : Moment) (outside : σ)

namespace Event

/-- The world after an event. -/
def after (world : World σ α) : Event σ α → World σ α
  | execute engine id => (Pass.execute engine.toEngine id).worldAfter world
  | tick engine => (Scheduler.tick engine.toEngine).worldAfter world
  | expire id now => (Lifecycle.expire id now).worldAfter world
  | operate action => (action.run : Run σ α (Campaign α)).worldAfter world
  | create tenant draft => (Lifecycle.create tenant draft).worldAfter world
  | credit tenant amount => (BalanceLedger.credit tenant amount).worldAfter world
  | define tenant target spec => (Registry.define tenant target spec).worldAfter world
  | upsert schema data externalId fields =>
    (Target.upsert schema data externalId fields).worldAfter world
  | cleanup days => (CooldownLedger.cleanup days).worldAfter world
  | elapse now outside => { world with now, outside }

end Event

/-- A world whose tables have just been created. -/
def World.opened (now : Moment) (outside : σ) : World σ α := ⟨.empty, now, [], outside⟩

/-- The world after a history. -/
def World.after (world : World σ α) (events : List (Event σ α)) : World σ α :=
  events.foldl Event.after world

theorem World.after_append (world : World σ α) (first rest : List (Event σ α)) :
    world.after (first ++ rest) = (world.after first).after rest := List.foldl_append

section Writes

variable {R : World σ α → World σ α → Prop} [IsPreorder (World σ α) R]

theorem Lifecycle.create_moves {tenant : String} {draft : Draft}
    (adds : ∀ (world : World σ α) now, world.store.created = true →
      R world { world with store := { world.store with
        campaigns := world.store.campaigns ++
          [Campaign.ofDraft (nextId (world.store.campaigns.map Campaign.id)) tenant now draft] } }) :
    Moves R (create tenant draft : Run σ α (Campaign α)).run := by
  unfold create
  by_cases deep : draft.filter.isTooDeep = true
  · rw [if_pos deep]
    exact moves_throw_bind
  · rw [if_neg deep]
    refine moves_run_bind moves_clock fun now => moves_commit fun world value store created wrote => ?_
    obtain ⟨days, _, wrote⟩ := ok_of_bind wrote
    obtain ⟨minutes, _, wrote⟩ := ok_of_bind wrote
    cases wrote
    exact adds world now created

omit [Amount α] in
theorem Registry.define_moves {tenant target : String} {spec : AttributeSpec}
    (puts : ∀ (world : World σ α) now,
      R world { world with store := (put tenant target now spec world.store).2 }) :
    Moves R (define tenant target spec : Run σ α Definition).run := by
  unfold define
  refine moves_run_bind moves_pure? fun kind => ?_
  by_cases builtin : kind.hasBuiltin spec.key = true
  · rw [if_pos builtin]
    exact moves_throw_bind
  · rw [if_neg builtin]
    refine moves_run_bind moves_clock fun now => moves_commit fun world value store _ wrote => ?_
    obtain rfl : (put tenant target now spec world.store).2 = store :=
      congrArg Prod.snd (Except.ok.inj wrote)
    exact puts world now

omit [Amount α] in
theorem CooldownLedger.cleanup_moves {days : Cell}
    (deletes : ∀ (world : World σ α) start,
      R world { world with store := (cleanupIn start world.store).2 }) :
    Moves R (cleanup days : Run σ α Nat).run := by
  refine moves_run_bind moves_clock fun now => moves_run_bind moves_pure? fun start =>
    moves_commit fun world value store _ wrote => ?_
  cases wrote
  exact deletes world start

omit [Amount α] in
/-- Writing a target moves along whatever the tables with the target in them are related by. -/
theorem Target.upsert_moves {schema : AttributeSchema} {data : Fields} {externalId : Value} {fields : Fields}
    (puts : ∀ (world : World σ α) now target store, world.store.created = true →
      put schema now data externalId fields world.store = .ok (target, store) →
        R world { world with store }) :
    Moves R (upsert schema data externalId fields : Run σ α Target).run := by
  have puts : ∀ now, Moves R (Run.commit (put schema now data externalId fields) :
      Run σ α Target).run := fun now => moves_commit fun world => puts world now
  unfold upsert
  by_cases taken : fields.names.any takenNames.contains = true
  · rw [if_pos taken]
    exact moves_throw_bind
  · rw [if_neg taken]
    dsimp only
    split
    · exact moves_throw
    · split
      · exact moves_throw
      · refine moves_run_bind moves_clock fun now => ?_
        split
        · exact moves_run_bind moves_pure? fun _ => puts now
        · exact puts now

end Writes

/-- Every event respects a relation between worlds, credits aside. -/
structure History.Respects (R : World σ α → World σ α → Prop) : Prop where
  pass : ∀ (engine : OperatedEngine σ α) id, Moves R (Pass.execute engine.toEngine id).run
  life : Lifecycle.Allows R
  create : ∀ tenant draft, Moves R (Lifecycle.create tenant draft : Run σ α _).run
  define : ∀ tenant target spec, Moves R (Registry.define tenant target spec : Run σ α _).run
  upsert : ∀ schema data externalId fields,
    Moves R (Target.upsert schema data externalId fields : Run σ α _).run
  cleanup : ∀ days, Moves R (CooldownLedger.cleanup days : Run σ α _).run
  elapse : ∀ (world : World σ α) now outside, R world { world with now, outside }

namespace History

variable {R : World σ α → World σ α → Prop} [IsPreorder (World σ α) R]

theorem Respects.event (respects : Respects R) (world : World σ α) (event : Event σ α)
    (credits : ∀ tenant amount, event = .credit tenant amount → R world (event.after world)) :
    R world (event.after world) := by
  cases event with
  | execute engine id => exact respects.pass engine id world
  | tick engine =>
    exact Scheduler.tick_moves (Lifecycle.expire_moves respects.life) (respects.pass engine) world
  | expire id now => exact Lifecycle.expire_moves respects.life id now world
  | operate action => exact action.moves respects.life world
  | create tenant draft => exact respects.create tenant draft world
  | credit tenant amount => exact credits tenant amount rfl
  | define tenant target spec => exact respects.define tenant target spec world
  | upsert schema data externalId fields =>
    exact respects.upsert schema data externalId fields world
  | cleanup days => exact respects.cleanup days world
  | elapse now outside => exact respects.elapse world now outside

/-- A whole history respects what each of its events respects. -/
theorem Respects.history (respects : Respects R)
    (credits : ∀ tenant amount, Moves R (BalanceLedger.credit tenant amount : Run σ α _).run)
    (events : List (Event σ α)) (world : World σ α) : R world (world.after events) := by
  induction events generalizing world with
  | nil => exact refl world
  | cons event rest ih =>
    refine IsTrans.trans _ _ _ (respects.event world event ?_) (ih _)
    rintro tenant amount rfl
    exact credits tenant amount world

/-- Some history of an engine's passes and of campaigns that expire lies between two worlds. -/
def Ticked (engine : OperatedEngine σ α) (before after : World σ α) : Prop :=
  ∃ events : List (Event σ α),
    (∀ event ∈ events,
      (∃ id, event = .execute engine id) ∨ ∃ id now, event = .expire id now) ∧
    after = before.after events

instance (engine : OperatedEngine σ α) : IsPreorder (World σ α) (Ticked engine) where
  refl world := ⟨[], by simp, rfl⟩
  trans first second third := by
    rintro ⟨left, ofLeft, rfl⟩ ⟨right, ofRight, rfl⟩
    refine ⟨left ++ right, fun event member => ?_, (World.after_append ..).symm⟩
    exact (List.mem_append.mp member).elim (ofLeft event) (ofRight event)

/-- A tick is such a history, so each of its passes begins in a world of a history. -/
theorem tick_ticked (engine : OperatedEngine σ α) (world : World σ α) :
    Ticked engine world (Event.after world (.tick engine)) := by
  have expires : ∀ id now, Moves (Ticked engine) (Lifecycle.expire id now : Run σ α Bool).run :=
    fun id now world => ⟨[.expire id now], by simp, rfl⟩
  have executes : ∀ id, Moves (Ticked engine) (Pass.execute engine.toEngine id).run :=
    fun id world => ⟨[.execute engine id], by simp, rfl⟩
  exact Scheduler.tick_moves expires executes world

end History

/-! ## A small history

A campaign on both channels, and a target that can be reached on either.
-/

namespace Sample

def settings : Settings where
  testMode := false
  smsPrice := Settings.cents 4
  emailPrice := Settings.cents 1
  sizes := ⟨⟨160, 153, Nat.succ_pos _, Nat.succ_pos _⟩, ⟨67, 67, Nat.succ_pos _, Nat.succ_pos _⟩⟩
  smsLimit := 1000
  sendTimeout := .ofInt 10
  checkMinutes := 60
  zone := .utc

/-- An engine whose providers take every message. -/
def engine : OperatedEngine Unit α where
  settings := settings
  sms := .smsGateway (.text "u") (.text "l") (.text "p")
  email := .emailService (.text "u") (.text "k")
  batchSize := 500
  exchange
    | .sms .. => return .answered ⟨200, some "OK:1", none⟩
    | .email .. => return .answered ⟨200, some "", some (.record [("id", .text "m")])⟩
  beforeFinish := return ()
  exchange_operated request world := by cases request <;> exact .refl
  beforeFinish_operated world := .refl

def draft : Draft where
  name := "Spring"
  target := .customer
  reach := .both
  recurrence := .oneTime
  content := ⟨some "S", some "Hi", some "E", none, some "s", some "b"⟩
  filter := .empty
  scheduledAt := none
  checkMinutes := none
  cooldownDays := 0
  window := ⟨none, none⟩
  endsAt := none
  isTest := false
  createdBy := none

/-- The campaign has been made, and its audience is one customer. -/
def prepared : List (Event Unit α) :=
  [.create "t" draft, .upsert ⟨"t", .customer, []⟩ [] .null
    [("phone", .text "123"), ("email", .text "a@b.co")]]

/-- The balance covers the text message alone; more is credited and the campaign resumed. -/
def resumed : List (Event Unit α) :=
  [.credit "t" (Settings.cents 4), .execute engine 1, .credit "t" (Settings.cents 4),
    .operate (.resume .utc 1)]

/-- The moment at which the small history begins. -/
def dawn : Moment := ⟨0, by decide⟩

/-- The world of a small history. -/
def world (events : List (Event Unit α)) : World Unit α := (World.opened ⟨0, by decide⟩ ()).after events

/-- The world before the first pass, with so many cents credited: the text message costs four of
them and the e-mail one. -/
def funded (cents : Nat) : World Unit α := world (prepared ++ [.credit "t" (Settings.cents cents)])

end Sample

end Herald
