import Herald.Proofs.Cooldowns

/-! # Cooldowns over a whole history

The passes of a history, those of its ticks one by one, make up its log. The messages of a campaign
that reach one target from different passes lie more than the campaign's cooldown apart.
-/

namespace Herald

variable {σ α : Type} [Amount α]

/-! ## Passes -/

/-- A pass of a campaign, as the worlds before and after it. -/
structure Passage (σ α : Type) where
  before : World σ α
  after : World σ α

namespace Passage

/-- The messages that a pass has added to the log. -/
def rows (passage : Passage σ α) : List (Message α) :=
  passage.after.store.messages.drop passage.before.store.messages.length

/-- What a campaign sends to one target in two passes is more than a number of days apart. -/
def Apart (id days : ℤ) (earlier later : Passage σ α) : Prop :=
  ∀ row ∈ earlier.rows, ∀ other ∈ later.rows, row.reaches id = true → other.reaches id = true →
    row.target = other.target → row.targetId = other.targetId →
      ∃ time next : Moment, row.sentAt = some time ∧ other.sentAt = some next ∧
        time.micros + days * dayMicros < next.micros

/-- The pass of a campaign. -/
def of (engine : OperatedEngine σ α) (id : Int) (world : World σ α) : Passage σ α :=
  ⟨world, (Event.execute engine id).after world⟩

/-- Passes of several campaigns, one after the other. -/
def each (engine : OperatedEngine σ α) : World σ α → List Int → List (Passage σ α)
  | _, [] => []
  | world, id :: rest =>
    let passage := of engine id world
    passage :: each engine passage.after rest

end Passage

/-- The passes of an event. Those of a tick are the ones that it tells of, behind the campaigns that
it completes. -/
def Event.passages (world : World σ α) : Event σ α → List (Passage σ α)
  | .execute engine id => [.of engine id world]
  | .tick engine =>
    match ((Scheduler.tick engine.toEngine).run.run world).1 with
    | .ok attempts =>
      Passage.each engine ((Scheduler.expireEnded world.now).worldAfter world)
        (attempts.map Scheduler.Attempt.campaign)
    | .error _ => []
  | _ => []

/-- The passes of a history. -/
def World.passages (world : World σ α) : List (Event σ α) → List (Passage σ α)
  | [] => []
  | event :: rest => event.passages world ++ World.passages (event.after world) rest

/-- The clock is not set back by an event, and it keeps cooldowns for at least a number of days. -/
def Event.Spares (days : ℤ) (world : World σ α) : Event σ α → Prop
  | .execute engine _ => engine.toEngine.KeepsTime
  | .tick engine => engine.toEngine.KeepsTime
  | .cleanup retention =>
    ∀ micros, retention.micros .days = .ok micros → days * dayMicros ≤ micros
  | .elapse now _ => world.now.micros ≤ now.micros
  | _ => True

/-- All events of a history do so. -/
def World.Spares (days : ℤ) (world : World σ α) : List (Event σ α) → Prop
  | [] => True
  | event :: rest => event.Spares days world ∧ World.Spares days (event.after world) rest

/-! ## Passes apart -/

/-- What holds behind the passes of a history, if a campaign's cooldown lasts so many days: they
make up the log, what the campaign sends in them is apart, and the ledger covers it or the campaign
is closed. -/
structure Spaced (id days : ℤ) (world : World σ α) (passages : List (Passage σ α)) : Prop where
  reaching : Reaching world.store
  logged : world.store.messages = passages.flatMap Passage.rows
  spaced : (∀ campaign, world.store.campaign? id = some campaign →
    campaign.cooldownDays = .int days) → passages.Pairwise (Passage.Apart id days)
  cooled : Cooled id days world

namespace Spaced

variable {id days : ℤ} {world after : World σ α} {passages : List (Passage σ α)}

omit [Amount α] in
/-- What does not send anything in between leaves the passes apart. -/
theorem rest (spaced : Spaced id days world passages) (lasts : Lasts id world after)
    (reaching : Reaching after.store) (same : after.store.messages = world.store.messages)
    (cooled : Cooled id days after) : Spaced id days after passages where
  reaching := reaching
  logged := same.trans spaced.logged
  spaced fixed := spaced.spaced fun campaign found => by
    obtain ⟨later, found, equal⟩ := lasts campaign found
    exact equal ▸ fixed later found
  cooled := cooled

omit [Amount α] in
theorem quiet (spaced : Spaced id days world passages) (lasts : Lasts id world after)
    (reaching : Reaching after.store) (quiet : Quiet id world after) :
    Spaced id days after passages :=
  spaced.rest lasts reaching quiet.messages (quiet.cooled spaced.cooled)

/-- A further pass is apart from all before it. -/
theorem pass (spaced : Spaced id days world passages) (positive : 1 ≤ days)
    {engine : OperatedEngine σ α} (keepsTime : engine.toEngine.KeepsTime) (other : Int) :
    Spaced id days (Event.after world (.execute engine other))
      (passages ++ [Passage.of engine other world]) := by
  have orderly := spaced.reaching.orderly
  have lasts : Lasts id world (Event.after world (.execute engine other)) :=
    (History.respects_lasts id).pass engine other world
  obtain ⟨rows, logged, -⟩ := Pass.execute_logs engine other orderly
  have added : (Passage.of engine other world).rows = rows := by
    rw [Passage.rows]
    exact (congrArg (List.drop _) logged).trans List.drop_left
  refine ⟨History.respects_reaching.pass engine other world spaced.reaching, ?_, fun fixed => ?_,
    Pass.execute_cooled keepsTime orderly other spaced.cooled⟩
  · rw [List.flatMap_append, List.flatMap_singleton, added, ← spaced.logged]
    exact logged
  · have fixed : ∀ campaign, world.store.campaign? id = some campaign →
        campaign.cooldownDays = .int days := by
      intro campaign found
      obtain ⟨later, found, equal⟩ := lasts campaign found
      exact equal ▸ fixed later found
    obtain ⟨rows', logged', apart⟩ :=
      Pass.execute_apart keepsTime orderly spaced.cooled fixed positive other
    cases List.append_cancel_left (logged.symm.trans logged')
    refine List.pairwise_append.mpr ⟨spaced.spaced fixed, List.pairwise_singleton .., ?_⟩
    intro earlier member later last row inEarlier next inLater
    obtain rfl := List.mem_singleton.mp last
    refine apart row ?_ next (added ▸ inLater)
    rw [spaced.logged]
    exact List.mem_flatMap.mpr ⟨earlier, member, inEarlier⟩

/-- The passes of a tick are apart, one after the other. -/
theorem runAll (spaced : Spaced id days world passages) (positive : 1 ≤ days)
    {engine : OperatedEngine σ α} (keepsTime : engine.toEngine.KeepsTime)
    (campaigns : List (Campaign α)) :
    Leads (Scheduler.runAll engine.toEngine campaigns) world fun attempts after =>
      Spaced id days after
        (passages ++ Passage.each engine world (attempts.map Scheduler.Attempt.campaign)) := by
  induction campaigns generalizing world passages with
  | nil =>
    rw [Scheduler.runAll, leads_pure, List.map_nil, Passage.each, List.append_nil]
    exact spaced
  | cons campaign rest ih =>
    have runs : Ends (Pass.execute engine.toEngine campaign.id) world fun _ after =>
        after = (Passage.of engine campaign.id world).after := rfl
    rw [Scheduler.runAll, leads_bind]
    refine Leads.mono runs ?_
    rintro result after rfl
    rw [leads_bind]
    refine (ih (spaced.pass positive keepsTime campaign.id)).mono ?_
    intro attempts last others
    rw [leads_pure, List.map_cons, Passage.each]
    rwa [List.append_assoc, List.singleton_append] at others

theorem tick (spaced : Spaced id days world passages) (positive : 1 ≤ days)
    {engine : OperatedEngine σ α} (keepsTime : engine.toEngine.KeepsTime) :
    Spaced id days (Event.after world (.tick engine))
      (passages ++ Event.passages world (.tick engine)) := by
  have expires : ∀ {R : World σ α → World σ α → Prop} [IsPreorder (World σ α) R],
      (∀ id, Moves R (Lifecycle.expire id world.now : Run σ α Bool).run) →
        R world ((Scheduler.expireEnded world.now).worldAfter world) :=
    fun moves => moves_run_bind moves_query (fun _ => Scheduler.expireAll_moves moves _) world
  have begun : Spaced id days ((Scheduler.expireEnded world.now).worldAfter world) passages :=
    spaced.quiet
      (expires fun other => Lifecycle.expire_moves (History.respects_lasts id).life other world.now)
      (expires (R := Keeps Reaching)
        (fun other => Lifecycle.expire_moves History.respects_reaching.life other world.now)
        spaced.reaching)
      (expires fun other => Quiet.expire id other world.now)
  have unrun := begun
  rw [← List.append_nil passages] at unrun
  have ends : Ends (Scheduler.tick engine.toEngine) world fun result after =>
      Spaced id days after (passages ++ match result with
        | .ok attempts => Passage.each engine ((Scheduler.expireEnded world.now).worldAfter world)
          (attempts.map Scheduler.Attempt.campaign)
        | .error _ => []) := by
    have expired : Ends (Scheduler.expireEnded world.now) world fun _ after =>
        after = (Scheduler.expireEnded world.now).worldAfter world := rfl
    rw [Scheduler.tick, ends_bind, ends_clock]
    dsimp only
    rw [ends_bind]
    refine Leads.mono expired ?_
    rintro (failure | count) after rfl
    · exact unrun
    · dsimp only
      rw [ends_bind]
      refine leads_of_still (moves_run_bind moves_query fun _ => moves_pure?) fun due => ?_
      cases due with
      | error failure => exact unrun
      | ok campaigns => exact begun.runAll positive keepsTime campaigns
  exact ends

/-- Every event leaves the passes of a history apart. -/
theorem event (spaced : Spaced id days world passages) (positive : 1 ≤ days) (event : Event σ α)
    (spares : event.Spares days world) :
    Spaced id days (event.after world) (passages ++ event.passages world) := by
  have lasts : Lasts id world (event.after world) := by
    refine (History.respects_lasts id).event world event ?_
    rintro tenant amount rfl
    exact .of_campaigns (congrArg Prod.fst (History.keepsRecords.credit tenant amount world))
  have reaching : Reaching (event.after world).store := by
    refine History.respects_reaching.event world event ?_ spaced.reaching
    rintro tenant amount rfl reaching
    exact reaching.of_records (credit_orderly tenant amount world reaching.orderly)
      (History.keepsRecords.credit tenant amount world)
  have alone : Quiet id world (event.after world) → Spaced id days (event.after world)
      (passages ++ []) := fun quiet => by
    rw [List.append_nil]
    exact spaced.quiet lasts reaching quiet
  cases event with
  | execute engine other => exact spaced.pass positive spares other
  | tick engine => exact spaced.tick positive spares
  | expire other now => exact alone (Quiet.expire id other now world)
  | operate action => exact alone (Quiet.operate id action world)
  | create tenant draft => exact alone (Quiet.create id tenant draft world)
  | credit tenant amount => exact alone (Quiet.credit id tenant amount world)
  | define tenant target spec => exact alone (Quiet.define id tenant target spec world)
  | upsert schema data externalId fields =>
    exact alone (Quiet.upsert id schema data externalId fields world)
  | elapse now outside => exact alone ⟨.of_elapses spares rfl, rfl, .of_eq rfl⟩
  | cleanup retention =>
    obtain ⟨same, cooled⟩ := CooldownLedger.cleanup_cooled spares world
    exact (List.append_nil passages).symm ▸ spaced.rest lasts reaching same (cooled spaced.cooled)

/-- A whole history leaves its passes apart. -/
theorem history (spaced : Spaced id days world passages) (positive : 1 ≤ days)
    (events : List (Event σ α)) (spares : world.Spares days events) :
    Spaced id days (world.after events) (passages ++ world.passages events) := by
  induction events generalizing world passages with
  | nil => exact (List.append_nil passages).symm ▸ spaced
  | cons event rest ih =>
    rw [World.passages, ← List.append_assoc]
    exact ih (spaced.event positive event spares.1) spares.2

end Spaced

theorem spaced_opened (now : Moment) (outside : σ) (id days : ℤ) :
    Spaced id days (World.opened now outside : World σ α) [] where
  reaching := reaching_after now outside []
  logged := rfl
  spaced _ := .nil
  cooled := .inl (List.forall_mem_nil _)

/-- Two messages of a campaign that reach one target from different passes are sent more than the
days of its cooldown apart, and every message in the log is from one of the passes. -/
theorem passes_spaced_by_cooldown (now : Moment) (outside : σ) (events : List (Event σ α))
    (id days : ℤ) (positive : 1 ≤ days)
    (spares : (World.opened now outside : World σ α).Spares days events)
    (lasts : (((World.opened now outside : World σ α).after events).store.campaign? id).any
      (fun campaign => campaign.cooldownDays = .int days) = true) :
    let opened : World σ α := World.opened now outside
    (opened.after events).store.messages = (opened.passages events).flatMap Passage.rows ∧
      (opened.passages events).Pairwise fun earlier later =>
        ∀ row ∈ earlier.rows, ∀ next ∈ later.rows, row.campaign = id → next.campaign = id →
          row.status.isSuccess = true → next.status.isSuccess = true →
            row.target = next.target → row.targetId = next.targetId →
              ∃ time later : Moment, row.sentAt = some time ∧ next.sentAt = some later ∧
                time.micros + days * dayMicros < later.micros := by
  intro opened
  have spaced := (spaced_opened now outside id days).history positive events spares
  obtain ⟨campaign, found, fixed⟩ := (Option.any_eq_true _ _).mp lasts
  have apart := spaced.spaced fun other also => by
    cases found.symm.trans also
    exact of_decide_eq_true fixed
  refine ⟨spaced.logged, apart.imp fun apart row first next second about aboutNext => ?_⟩
  exact fun out outNext => apart row first next second (Message.reaches_iff.mpr ⟨about, out⟩)
    (Message.reaches_iff.mpr ⟨aboutNext, outNext⟩)

namespace Sample

/-- A campaign that repeats, with a cooldown of a day. -/
def repeating : Draft := { draft with recurrence := .automated, cooldownDays := 1 }

/-- The moment a number of hours after the small history begins. -/
def hour (count : ℕ) (inside : count < 24 * 365) : Moment :=
  ⟨count * 3600000000, by unfold lastDay dayMicros; omega⟩

/-- Three passes at midnight, at noon and a day and a half later, with a cleanup in between. -/
def rounds : List (Event Unit α) :=
  [.create "t" repeating, .upsert ⟨"t", .customer, []⟩ [] .null
      [("phone", .text "123"), ("email", .text "a@b.co")],
    .credit "t" (Settings.cents 100), .execute engine 1, .elapse (hour 36 (by decide)) (),
    .tick engine, .cleanup (.int 1), .elapse (hour 72 (by decide)) (), .tick engine]

omit [Amount α] in
theorem engine_keepsTime : (engine : OperatedEngine Unit α).toEngine.KeepsTime where
  exchange request world := by cases request <;> exact Nat.le_refl _
  beforeFinish _ := Nat.le_refl _

end Sample

/-- The customer is reached at midnight and two days later, but not at noon. -/
theorem sample_passes_spaced :
    let opened : World Unit Exact := World.opened (Sample.hour 24 (by decide)) ()
    (opened.passages Sample.rounds).map (fun passage => passage.rows.length) = [2, 0, 2] ∧
      (opened.passages Sample.rounds).Pairwise fun earlier later =>
        ∀ row ∈ earlier.rows, ∀ next ∈ later.rows, row.campaign = 1 → next.campaign = 1 →
          row.status.isSuccess = true → next.status.isSuccess = true →
            row.target = next.target → row.targetId = next.targetId →
              ∃ time later : Moment, row.sentAt = some time ∧ next.sentAt = some later ∧
                time.micros + (1 : ℤ) * dayMicros < later.micros := by
  have keepsTime := Sample.engine_keepsTime (α := Exact)
  have spares : (World.opened (Sample.hour 24 (by decide)) () : World Unit Exact).Spares 1
      Sample.rounds := by
    refine ⟨trivial, trivial, trivial, keepsTime, ?_, keepsTime, ?_, ?_, keepsTime, trivial⟩
    · change Moment.micros _ ≤ Moment.micros _
      decide +kernel
    · rintro _ ⟨⟩
      exact Int.le_refl _
    · change Moment.micros _ ≤ Moment.micros _
      decide +kernel
  exact ⟨by decide +kernel, (passes_spaced_by_cooldown (Sample.hour 24 (by decide)) ()
    Sample.rounds 1 1 (by decide) spares (by decide +kernel)).2⟩

end Herald
