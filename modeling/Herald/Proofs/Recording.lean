import Herald.Proofs.Pairing

/-! # Passes with notes

What surrounds an engine can be noted: `Engine.recording` keeps a note of every call that a pass
makes to the outside, beside whatever is outside anyway. A pass that is noted runs like the pass
itself, because it has the same tables, the same time and the same journal, and nothing else ever
counts. So what the notes of a pass say is said about the pass.
-/

namespace Herald

variable {σ τ α β ν : Type}

/-! ## Walks -/

/-- A relation of worlds with the same targets. -/
structure SharesTargets (R : World σ α → World τ α → Prop) : Prop where
  created_eq : ∀ world other, R world other → other.store.created = world.store.created
  targets_eq : ∀ world other, R world other →
    ∀ kind, other.store.targets kind = world.store.targets kind

section Walk

variable {R : World σ α → World τ α → Prop} {audience : Audience} {limit : Option Int}
  {visit : β → TargetRecord → Steady σ α (Visit β)}
  {visit' : β → TargetRecord → Steady τ α (Visit β)}
  (visits : ∀ found target, Alike R (visit found target) (visit' found target))

include visits

theorem Audience.walkRecords_alike (records : List TargetRecord) (found : β) (visited : ℕ) :
    Alike R (audience.walkRecords limit visit records found visited)
      (audience.walkRecords limit visit' records found visited) := by
  induction records generalizing found visited with
  | nil => exact alike_pure
  | cons target rest ih =>
    rw [Audience.walkRecords, Audience.walkRecords]
    cases audience.predicate.holds target.attributes audience.today with
    | error refusal => exact alike_pure
    | ok holds =>
      cases holds with
      | false => exact ih found visited
      | true =>
        refine alike_bind (visits found target) fun result => ?_
        cases result with
        | stop found => exact alike_pure
        | giveUp found failure => exact alike_pure
        | next found =>
          dsimp only
          split
          · exact alike_pure
          · exact ih found (visited + 1)

namespace SharesTargets

variable (shares : SharesTargets R)

include shares

theorem walkAfter (size : Int) (batches : ℕ) (after : Int) (found : β) (visited : ℕ) :
    Alike R (audience.walkAfter size limit visit batches after found visited)
      (audience.walkAfter size limit visit' batches after found visited) := by
  have reads : ∀ after, Alike R (Run.consult (audience.batch size after) : Run σ α _).run
      (Run.consult (audience.batch size after) : Run τ α _).run := by
    intro after
    refine alike_run_get_bind fun world other related => ?_
    have same : audience.batch size after other.store = audience.batch size after world.store := by
      simp only [Audience.batch, Audience.after, shares.targets_eq world other related]
    rw [shares.created_eq world other related, same]
    split
    · cases audience.batch size after world.store <;> exact alike_pure
    · exact alike_throw
  induction batches generalizing after found visited with
  | zero => exact alike_pure
  | succ batches ih =>
    rw [Audience.walkAfter, Audience.walkAfter]
    refine alike_bind (reads after) fun result => ?_
    cases result with
    | error failure => exact alike_pure
    | ok targets =>
      dsimp only
      cases targets.getLast? with
      | none => exact alike_pure
      | some last =>
        dsimp only
        refine alike_bind (Audience.walkRecords_alike visits _ found visited) fun walked => ?_
        cases walked with
        | more found visited => exact ih last.id found visited
        | done found => exact alike_pure
        | failed found failure => exact alike_pure

theorem walk (size : Int) (start : β) :
    Alike R (audience.walk size limit visit start) (audience.walk size limit visit' start) := by
  unfold Audience.walk
  split
  · exact alike_pure
  · refine alike_get_bind fun world other related => ?_
    rw [shares.targets_eq world other related]
    refine alike_bind (walkAfter visits shares size _ 0 start 0) fun walked => ?_
    cases walked <;> exact alike_pure

end SharesTargets

end Walk

/-! ## The same tables -/

/-- A relation of worlds with the same tables and time, which are written and journaled alike. -/
structure Shares (R : World σ α → World τ α → Prop) : Prop where
  store_eq : ∀ world other, R world other → other.store = world.store
  now_eq : ∀ world other, R world other → other.now = world.now
  puts : ∀ world other store, R world other → R { world with store } { other with store }
  records : ∀ world other line, R world other →
    R { world with journal := world.journal ++ [line] }
      { other with journal := other.journal ++ [line] }

namespace Shares

variable {R : World σ α → World τ α → Prop} (shares : Shares R)

include shares

theorem targets : SharesTargets R where
  created_eq world other related := congrArg Store.created (shares.store_eq world other related)
  targets_eq world other related kind := by rw [shares.store_eq world other related]

theorem clock : Alike R (Run.clock : Run σ α Moment).run (Run.clock : Run τ α Moment).run :=
  fun world other related => ⟨congrArg Except.ok (shares.now_eq world other related), related⟩

theorem query {read : Store α → β} :
    Alike R (Run.query read : Run σ α β).run (Run.query read : Run τ α β).run := by
  refine alike_run_get_bind fun world other related => ?_
  rw [shares.store_eq world other related]
  split
  · exact alike_run_pure
  · exact alike_throw

theorem consult {read : Store α → Except Failure β} :
    Alike R (Run.consult read : Run σ α β).run (Run.consult read : Run τ α β).run := by
  refine alike_run_get_bind fun world other related => ?_
  rw [shares.store_eq world other related]
  split
  · cases read world.store <;> exact alike_pure
  · exact alike_throw

theorem commit {write : Store α → Except Failure (β × Store α)} :
    Alike R (Run.commit write : Run σ α β).run (Run.commit write : Run τ α β).run := by
  refine alike_run_get_bind fun world other related => ?_
  rw [shares.store_eq world other related]
  split
  · cases write world.store with
    | error failure => exact alike_pure
    | ok written => exact fun _ _ _ => ⟨rfl, shares.puts world other written.2 related⟩
  · exact alike_throw

theorem journal (line : String) :
    Alike R (Run.record line : Run σ α Unit).run (Run.record line : Run τ α Unit).run :=
  fun world other related => ⟨rfl, shares.records world other line related⟩

/-! ### The steps of a pass -/

theorem get? (id : Int) (tenant : Option String) :
    Alike R (Lifecycle.get? id tenant : Run σ α _).run (Lifecycle.get? id tenant : Run τ α _).run :=
  shares.consult

theorem status? (id : Int) :
    Alike R (Lifecycle.status? id : Run σ α _).run (Lifecycle.status? id : Run τ α _).run :=
  shares.query

theorem transition (id : Int) (allowed : CampaignStatus → Bool)
    (change : Campaign α → Campaign α) :
    Alike R (Lifecycle.transition id allowed change : Run σ α _).run
      (Lifecycle.transition id allowed change : Run τ α _).run :=
  alike_run_bind shares.clock fun _ => shares.commit

theorem record (campaign : Int) (kind : String) (target : Int) (tenant : String) :
    Alike R (CooldownLedger.record campaign kind target tenant : Run σ α Unit).run
      (CooldownLedger.record campaign kind target tenant : Run τ α Unit).run :=
  alike_run_bind shares.clock fun _ => shares.commit

variable [Amount α]

/-- Engines run alike on the same tables if what surrounds them does. -/
theorem parallel {left : Engine σ α} {right : Engine τ α} (id : Int)
    (settings : right.settings = left.settings)
    (provider : ∀ channel, right.provider channel = left.provider channel)
    (batchSize : right.batchSize = left.batchSize)
    (exchange : ∀ request, Alike R (left.exchange request).run (right.exchange request).run)
    (beforeFinish : Alike R left.beforeFinish.run right.beforeFinish.run) :
    Parallel left right id (fun campaign => campaign.id = id) R where
  settings_eq := settings
  provider_eq := provider
  own_id _ own := own
  own_terms campaign other same own := by
    have ids : other.terms.id = campaign.terms.id := congrArg Campaign.id same
    exact ids.trans own
  finds _ _ _ _ found := campaign?_id found
  clock := shares.clock
  get? := shares.get? id none
  status? := shares.status? id
  transition allowed change _ := shares.transition id allowed change
  adds _ _ _ := shares.commit
  definitions _ _ := shares.query
  cooled _ _ _ := shares.consult
  messaged _ _ := shares.query
  walk _ _ _ _ _ start _ _ visits := by
    rw [batchSize]
    exact shares.targets.walk visits _ start
  log _ _ _ _ := shares.commit
  pays _ _ _ := shares.commit
  repays _ _ _ := shares.commit
  cooldown campaign kind target _ := shares.record campaign.id kind target campaign.tenant
  journal := shares.journal
  exchange := exchange
  beforeFinish := beforeFinish

end Shares

/-! ## Notes -/

/-- A world without the notes beside it. -/
def World.plain (world : World (σ × List ν) α) : World σ α :=
  ⟨world.store, world.now, world.journal, world.outside.1⟩

/-- A world with notes beside it. -/
def World.beside (world : World σ α) (notes : List ν) : World (σ × List ν) α :=
  ⟨world.store, world.now, world.journal, world.outside, notes⟩

/-- An action that leaves a note of the worlds before and after it. -/
def Run.noted (note : World σ α → World σ α → ν) (action : Run σ α β) : Run (σ × List ν) α β :=
  ExceptT.mk fun world =>
    let (result, after) := action.run.run world.plain
    (result, after.beside (world.outside.2 ++ [note world.plain after]))

theorem Run.noted_run (note : World σ α → World σ α → ν) (action : Run σ α β)
    (world : World (σ × List ν) α) : (Run.noted note action).run.run world =
      ((action.run.run world.plain).1, (action.run.run world.plain).2.beside
        (world.outside.2 ++ [note world.plain (action.run.run world.plain).2])) := rfl

/-- An engine with a note of every call to the outside, which is about a request or is the call
right before its campaign leaves the sending state. -/
def Engine.recording (engine : Engine σ α) (note : Option Request → World σ α → World σ α → ν) :
    Engine (σ × List ν) α where
  settings := engine.settings
  sms := engine.sms
  email := engine.email
  batchSize := engine.batchSize
  exchange request := Run.noted (note (some request)) (engine.exchange request)
  beforeFinish := Run.noted (note none) engine.beforeFinish

/-- A world, and the same world with notes. -/
def Plain (world : World σ α) (noted : World (σ × List ν) α) : Prop := noted.plain = world

theorem shares_plain : Shares (Plain : World σ α → World (σ × List ν) α → Prop) where
  store_eq _ _ plain := congrArg World.store plain
  now_eq _ _ plain := congrArg World.now plain
  puts _ _ store plain := by
    cases plain
    rfl
  records _ _ line plain := by
    cases plain
    rfl

theorem alike_noted (note : World σ α → World σ α → ν) (action : Run σ α β) :
    Alike Plain action.run (Run.noted note action).run := by
  intro world noted plain
  cases plain
  exact ⟨rfl, rfl⟩

variable [Amount α]

/-- A pass with notes is the pass itself. -/
theorem Pass.execute_recorded (engine : Engine σ α)
    (note : Option Request → World σ α → World σ α → ν) (id : Int) :
    Alike Plain (execute engine id).run (execute (engine.recording note) id).run := by
  refine (shares_plain.parallel id rfl (fun channel => ?_) rfl (fun request => ?_) ?_).execute
  · cases channel <;> rfl
  · exact alike_noted _ _
  · exact alike_noted _ _

/-- The notes of a pass. -/
def Pass.notes (note : Option Request → World σ α → World σ α → ν) (engine : Engine σ α) (id : Int)
    (world : World σ α) : List ν :=
  ((execute (engine.recording note) id).run.run (world.beside [])).2.outside.2

/-- What holds behind a pass and its notes is what holds behind the pass with notes. -/
theorem Pass.ends_of_recorded {engine : Engine σ α}
    {note : Option Request → World σ α → World σ α → ν} {id : Int} {world : World σ α}
    {after : List ν → Except Failure PassResult → World σ α → Prop}
    (ends : Ends (execute (engine.recording note) id) (world.beside []) fun result later =>
      after later.outside.2 result later.plain) :
    Ends (execute engine id) world (after (notes note engine id world)) := by
  obtain ⟨same, plain⟩ := execute_recorded engine note id world (world.beside []) rfl
  have plain : World.plain _ = _ := plain
  unfold Ends Leads at ends ⊢
  rw [same, plain] at ends
  exact ends

end Herald
