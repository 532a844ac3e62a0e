import Herald.Proofs.Charges
import Herald.Proofs.Guard

/-! # How passes end

A pass either is refused and changes nothing, or it claims its campaign and then moves it on: it
returns and tells where the campaign stands, or it fails and the campaign has failed with it, unless
somebody has cancelled it meanwhile. Whatever goes wrong on the way, the record of a failure itself
cannot fail, because the costs of a pass are bounded; so no pass leaves a campaign sending.
-/

namespace Herald

variable {σ : Type}

/-! ## Tables that are ready -/

/-- Tables on which the statements about a campaign of its own succeed: they have been created, and
costs can be added to the campaign's sums. -/
structure Store.Ready (store : Store Binary64) (id : Int) : Prop where
  created : store.created = true
  addable : store.Addable id

theorem Store.Ready.of_standing {before after : Store Binary64} {id : Int}
    (ready : before.Ready id) (same : after.standing = before.standing) : after.Ready id where
  created := (view_of_standing (fun _ => rfl) same : after.created = before.created).trans
    ready.created
  addable := by
    rw [← Store.addable_standing, same, Store.addable_standing]
    exact ready.addable

theorem Attended.keeps_created {id : Int} {before after : World σ Binary64}
    (attended : Attended id before after) :
    Keeps (fun store => store.created = true) before after :=
  attended.related (R := Keeps fun store => store.created = true) (fun _ _ _ _ _ created => created)
    (fun _ _ => Lifecycle.create_moves fun _ _ _ created => created)
    fun _ _ same created => same ▸ created

/-- What happens around passes leaves tables ready: a new campaign has sums that can be added to. -/
theorem Attended.keeps_ready {target : Int} {before after : World σ Binary64}
    (attended : Attended target before after) (id : Int) :
    Keeps (fun store => store.Ready id) before after := by
  refine attended.related (R := Keeps fun store => store.Ready id)
    (fun world target condition _ keeps ready =>
      ready.of_standing (standing_updateCampaign world.store target condition keeps))
    (fun _ _ => Lifecycle.create_moves fun world now _ ready =>
      ⟨ready.created, fun campaign member same => ?_⟩) fun _ _ same ready => same ▸ ready
  rcases List.mem_append.mp member with old | new
  · exact ready.addable campaign old same
  · cases List.mem_singleton.mp new
    exact ⟨⟨nofun, nofun⟩, ⟨nofun, nofun⟩⟩

/-- An engine whose surroundings leave tables ready for its passes of a campaign. -/
structure Engine.KeepsReady (engine : Engine σ Binary64) (id : Int) : Prop where
  exchange : ∀ request, Moves (Keeps fun store => store.Ready id) (engine.exchange request).run
  beforeFinish : Moves (Keeps fun store => store.created = true) engine.beforeFinish.run

theorem Engine.Attended.keepsReady {engine : Engine σ Binary64} {id : Int}
    (attended : engine.Attended id) : engine.KeepsReady id where
  exchange request world := (attended.exchange request world).keeps_ready id
  beforeFinish world := (attended.beforeFinish world).keeps_created

theorem Engine.Attended.keepsReady_recording {ν : Type} {engine : Engine σ Binary64} {id : Int}
    (attended : engine.Attended id)
    (note : Option Request → World σ Binary64 → World σ Binary64 → ν) :
    (engine.recording note).KeepsReady id where
  exchange request world := (attended.exchange request world.plain).keeps_ready id
  beforeFinish world := (attended.beforeFinish world.plain).keeps_created

namespace Pass

variable {α : Type} {engine : Engine σ Binary64} {id : Int} {flag : σ → Prop}

/-! ## How a pass is closed -/

/-- A campaign whose pass has failed: it has failed for the same reason, or has been cancelled. -/
def Failed (id : Int) (flag : σ → Prop) (failure : Failure) (after : World σ Binary64) : Prop :=
  (∃ campaign, after.store.campaign? id = some campaign ∧ campaign.status = .failed ∧
    campaign.failureReason = some (Provider.cutText Lifecycle.reasonLength failure.reason)) ∨
  after.status? id = some .cancelled ∧ flag after.outside

theorem Failed.of_eq {failure : Failure} {before after : World σ Binary64}
    (failed : Failed id flag failure before) (store : after.store = before.store)
    (outside : after.outside = before.outside) : Failed id flag failure after := by
  unfold Failed World.status? at failed ⊢
  rwa [store, outside]

/-- A guarded campaign that is sending is changed by a transition from there, and left alone if it
has been cancelled. -/
theorem transition_failed {change : Campaign Binary64 → Campaign Binary64} {failure : Failure}
    (keeps : KeepsTerms change) (ids : ∀ campaign, (change campaign).id = campaign.id)
    (failed : ∀ campaign, (change campaign).status = .failed ∧ (change campaign).failureReason =
      some (Provider.cutText Lifecycle.reasonLength failure.reason))
    {world : World σ Binary64} (created : world.store.created = true) (fits : Cell.fits id = true)
    (guarded : Guarded id flag world) :
    Ends (Lifecycle.transition id (· == .sending) change) world fun result after =>
      (∃ changed, result = .ok changed) ∧ after.store.created = true ∧
        Failed id flag failure after := by
  have succeeds := Lifecycle.transition_succeeds (· == .sending) change created fits
  have kept := (Lifecycle.transition_moves (R := Agree fun world : World σ Binary64 =>
    world.store.created) (fun _ _ _ _ _ => rfl) id (· == .sending) keeps).leads world
  suffices fails : Ends (Lifecycle.transition id (· == .sending) change) world fun result after =>
      (∃ changed, result = .ok changed) → Failed id flag failure after from
    (succeeds.and (kept.and fails)).mono fun result after ⟨succeeds, kept, fails⟩ =>
      ⟨succeeds, kept.trans created, fails succeeds⟩
  rcases guarded with sending | cancelled
  · obtain ⟨old, found, sending⟩ := Option.map_eq_some_iff.mp sending
    refine Leads.mono (Lifecycle.transition_found id (· == .sending) ids found) ?_
    rintro _ after changed ⟨_, rfl⟩
    have same : (old.id == id && old.status == .sending) = true := by
      simp [campaign?_id found, sending]
    rw [if_pos same] at changed
    exact .inl ⟨_, changed.2, failed old⟩
  · refine Lifecycle.ends_transition .failed ids (fun campaign => (failed campaign).1)
      fun result after ending outside => ?_
    rintro ⟨changed, rfl⟩
    cases changed with
    | true =>
      obtain ⟨status, stands, sending⟩ := ending.allows
      rw [cancelled.1] at stands
      cases stands
      cases sending
    | false => exact .inr ⟨(ending.2 id).trans cancelled.1, outside ▸ cancelled.2⟩

/-- A guarded campaign is marked as failed unless it has been cancelled. -/
theorem markFailed_guarded {world : World σ Binary64} (created : world.store.created = true)
    (fits : Cell.fits id = true) (guarded : Guarded id flag world) (failure : Failure) :
    Ends (Lifecycle.markFailed id failure.reason) world fun result after =>
      (∃ changed, result = .ok changed) ∧ after.store.created = true ∧
        Failed id flag failure after := by
  rw [Lifecycle.markFailed, ends_bind, ends_clock]
  dsimp only
  refine transition_failed ?_ ?_ ?_ created fits guarded
  · exact fun _ => rfl
  · exact fun _ => rfl
  · exact fun _ => ⟨rfl, rfl⟩

/-- The line of a pass with a bounded tally is written into the journal, and nothing else. -/
theorem journal_ends {campaign : Campaign Binary64} {result : PassResult}
    (within : result.tally.IsWithin) {world : World σ Binary64}
    {after : Except Failure Unit → World σ Binary64 → Prop}
    (written : ∀ line, after (.ok ()) { world with journal := world.journal ++ [line] }) :
    Ends (journal campaign result) world after := by
  obtain ⟨line, ok⟩ := PassResult.journalLine_ok within campaign.tenant
  rw [journal, ends_bind, ends_pure?, ok]
  exact written line

/-- Behind the write of its tally the record of a failure does not fail: the campaign has failed,
and the failure is handed on. -/
theorem close_applied {campaign : Campaign Binary64} (own : campaign.id = id) {isTest : Bool}
    {ledger : Ledger} (applied : ledger.applied = true) {failure : Failure}
    {world : World σ Binary64} (created : world.store.created = true) (fits : Cell.fits id = true)
    (guarded : Guarded id flag world) (within : ledger.progress.tally.IsWithin) :
    Ends (close campaign isTest ledger (.error failure)) world fun result after =>
      result = .error failure ∧ Failed id flag failure after := by
  rw [close, ends_bind, fail, if_neg (by simp [applied]), own, ends_bind]
  refine (markFailed_guarded created fits guarded failure).mono ?_
  rintro _ marked ⟨⟨changed, rfl⟩, created, failed⟩
  dsimp only
  rw [ends_bind, Lifecycle.status?, ends_query created]
  exact journal_ends within fun line => ⟨rfl, failed.of_eq rfl rfl⟩

theorem close_failed {campaign : Campaign Binary64} (own : campaign.id = id) {isTest : Bool}
    {ledger : Ledger} {failure : Failure} {world : World σ Binary64}
    (created : world.store.created = true) (fits : Cell.fits id = true)
    (guarded : Guarded id flag world) (within : ledger.progress.tally.IsWithin)
    (addable : ledger.applied = false → world.store.Addable id) :
    Ends (close campaign isTest ledger (.error failure)) world fun result after =>
      result = .error failure ∧ Failed id flag failure after := by
  rcases ledger with ⟨progress, count, applied⟩
  cases applied with
  | true => exact close_applied own rfl created fits guarded within
  | false =>
    have keeps : Moves (Agree fun world : World σ Binary64 => world.store.created)
        (Lifecycle.apply id progress.tally (if count.isZero then none else some count)).run :=
      Lifecycle.apply_moves fun _ _ _ => rfl
    rw [close_unapplied, own]
    refine ((Lifecycle.apply_succeeds within created fits (addable rfl) _).and
      (((Lifecycle.apply_guards id id flag _ _).leads world).and (keeps.leads world))).mono ?_
    rintro _ middle ⟨⟨wrote, rfl, _⟩, guards, kept⟩
    exact close_applied own rfl (kept.trans created) fits (guards.guarded guarded) within

/-- A pass that has moved its campaign on returns, and tells where the campaign stands. -/
theorem close_returned {campaign : Campaign Binary64} {isTest : Bool} {ledger : Ledger}
    {stopped : Option Stopped} {told : CampaignStatus} {nextRunAt : Option Moment}
    {world : World σ Binary64} (moved : Moved id flag stopped world told)
    (within : ledger.progress.tally.IsWithin) :
    Ends (close campaign isTest ledger (.ok (some told, nextRunAt))) world fun result after =>
      ∃ returned, result = .ok returned ∧ Moved id flag stopped after returned.status := by
  rw [close, ends_bind]
  refine journal_ends within fun line => ⟨_, rfl, ?_⟩
  cases moved with
  | left exit status going paused =>
    rw [result_status (by cases exit <;> decide)]
    exact .left exit status going paused
  | cancelled status flagged =>
    rw [result_status (by decide)]
    exact .cancelled status flagged

/-- What follows a walk: the pass returns and tells where its campaign stands, or it fails and the
campaign has failed with it. -/
theorem conclude_guarded (guarding : engine.Guarding id flag) (keeps : engine.KeepsReady id)
    {setting : Setting Binary64} (own : setting.campaign.id = id)
    {walked : Progress × Option Failure} {world : World σ Binary64} (ready : world.store.Ready id)
    (fits : Cell.fits id = true) (guarded : Guarded id flag world)
    (cancelled : walked.1.stopped = some .cancelled → world.status? id = some .cancelled)
    (within : walked.1.tally.IsWithin) :
    Ends (setting.conclude engine walked) world fun result after =>
      match result with
      | .ok returned => Moved id flag walked.1.stopped after returned.status
      | .error failure => Failed id flag failure after := by
  have fails : ∀ {ledger : Ledger} {failure : Failure} {world : World σ Binary64},
      world.store.created = true → Guarded id flag world → ledger.progress.tally.IsWithin →
        (ledger.applied = false → world.store.Addable id) →
          Ends (close setting.campaign setting.isTest ledger (.error failure)) world
            fun result after => match result with
              | .ok returned => Moved id flag walked.1.stopped after returned.status
              | .error failure => Failed id flag failure after := by
    intro ledger failure world created guarded within addable
    refine (close_failed own created fits guarded within addable).mono ?_
    rintro _ after ⟨rfl, failed⟩
    exact failed
  rcases walked with ⟨progress, _ | failure⟩
  · have applies : Moves (Keeps fun store : Store Binary64 => store.created = true)
        (Lifecycle.apply id progress.tally (some setting.count) : Run σ Binary64 Bool).run :=
      Lifecycle.apply_moves fun _ _ _ created => created
    rw [Setting.conclude, ends_bind, ends_attempt, own]
    refine ((Lifecycle.apply_succeeds within ready.created fits ready.addable _).and
      (((Lifecycle.apply_guards id id flag _ _).leads world).and (applies.leads world))).mono ?_
    rintro _ middle ⟨⟨applied, rfl, some⟩, guards, kept⟩
    obtain rfl := some rfl
    dsimp only
    rw [ends_bind, ends_attempt]
    have finishes := finish_moves (R := Keeps fun store => store.created = true)
      (fun _ _ _ _ _ created => created) keeps.beforeFinish setting.campaign progress.stopped
    refine ((finish_guarded guarding own (guards.guarded guarded) fun stops =>
      guards.cancelled (cancelled stops)).and (finishes.leads middle)).mono ?_
    rintro (failure | ⟨status, nextRunAt⟩) later ⟨finished, stays⟩
    · exact fails (stays (kept ready.created)) finished within fun unapplied => by cases unapplied
    · obtain ⟨told, rfl, moved⟩ := finished
      refine (close_returned moved within).mono ?_
      rintro _ after ⟨returned, rfl, moved⟩
      exact moved
  · exact fails ready.created guarded within fun _ => ready.addable

/-! ## How a pass is refused -/

/-- Why a pass is refused: there is no such campaign, it does not stand where a pass may begin, or
its filter does not compile. -/
def refusal? (store : Store α) (id : Int) : Option Failure :=
  match store.campaign? id with
  | none => some (.invalidState id none (some s!"Campaign {id} not found"))
  | some campaign =>
    if campaign.status.isRunnable then
      match compileIn store campaign with
      | .ok _ => none
      | .error failure => some failure
    else some (.invalidState id (some campaign.status.name) none)

/-- The failure with which a pass is refused at its start. -/
def Start.refusal? : Start α → Option Failure
  | .refused failure => some failure
  | _ => none

/-- A campaign is claimed if nothing speaks against a pass. -/
theorem claim_refusal {world : World σ α} (created : world.store.created = true)
    (fits : Cell.fits id = true) :
    Ends (claim id) world fun result _ => (match result with
      | .ok _ => none
      | .error failure => some failure) = refusal? world.store id := by
  have fitted : Cell.fitted id = .ok id := if_pos fits
  rw [claim, ends_bind, runnable, ends_bind, get?_ends created, fitted, refusal?]
  cases found : world.store.campaign? id with
  | none =>
    simp only [Except.map, found]
    exact rfl
  | some old =>
    simp only [Except.map, found]
    by_cases runnable : old.status.isRunnable = true
    · rw [if_pos runnable, if_pos runnable, ends_pure]
      dsimp only
      rw [ends_bind, compile_ends created]
      cases compileIn world.store old with
      | error failure => exact rfl
      | ok predicate =>
        dsimp only
        rw [ends_bind, begin_ends created fitted found runnable]
        exact rfl
    · rw [if_neg runnable, if_neg runnable]
      exact rfl

theorem start_refusal [Amount α] (engine : Engine σ α) {world : World σ α}
    (created : world.store.created = true) (fits : Cell.fits id = true) :
    Leads (start engine id) world fun begun _ => begun.refusal? = refusal? world.store id := by
  rw [start, leads_bind]
  refine Leads.mono (claim_refusal created fits) ?_
  rintro (failure | ⟨campaign, predicate⟩) claimed refusal
  · exact refusal
  · dsimp only
    rw [leads_bind]
    refine (leads_true _ _).mono fun prepared middle _ => ?_
    rcases prepared with failure | ⟨audience, count⟩
    · exact refusal
    · dsimp only
      rw [leads_bind]
      refine (leads_true _ _).mono fun bounds later _ => ?_
      rcases bounds with failure | ⟨excluded, limit⟩ <;> exact refusal

/-! ## How a pass ends -/

/-- A pass that is refused leaves everything as it is, and one that is not has claimed its
campaign. -/
theorem execute_claims [Amount α] {engine : Engine σ α} {world : World σ α}
    {after : Except Failure PassResult → World σ α → Prop} (created : world.store.created = true)
    (fits : Cell.fits id = true)
    (refused : ∀ failure, refusal? world.store id = some failure → after (.error failure) world)
    (unprepared : ∀ old campaign isTest count failure middle, refusal? world.store id = none →
      Claims id world old campaign middle →
        Ends (close campaign isTest ⟨.start, count, false⟩ (.error failure)) middle after)
    (walks : ∀ setting middle, refusal? world.store id = none →
      Walks engine id world setting middle → Leads (setting.walk engine) middle fun walked later =>
        Ends (setting.conclude engine walked) later after) : Ends (execute engine id) world after := by
  rw [execute_iff]
  refine ((start_leads engine id world).and (start_refusal engine created fits)).mono ?_
  rintro (failure | ⟨campaign, isTest, count, failure⟩ | setting) middle ⟨begins, refusal⟩
  · cases begins
    exact refused failure refusal.symm
  · obtain ⟨old, claims⟩ := begins
    exact unprepared old campaign isTest count failure middle refusal.symm claims
  · rw [Start.goOn, ends_bind, ends_lift]
    exact walks setting middle refusal.symm begins

theorem execute_of_refusal [Amount α] (engine : Engine σ α) {world : World σ α} {failure : Failure}
    (created : world.store.created = true) (fits : Cell.fits id = true)
    (refusal : refusal? world.store id = some failure) :
    Ends (execute engine id) world fun result after => result = .error failure ∧ after = world := by
  refine execute_claims created fits (fun other refusal' => ?_) (fun _ _ _ _ _ _ claims => ?_)
    fun _ _ claims => ?_
  · cases refusal.symm.trans refusal'
    exact ⟨rfl, rfl⟩
  · cases refusal.symm.trans claims
  · cases refusal.symm.trans claims

theorem walk_within (engine : Engine σ Binary64) (setting : Setting Binary64)
    (world : World σ Binary64) :
    Leads (setting.walk engine) world fun walked _ => walked.1.tally.IsWithin :=
  Audience.walk_leads (I := fun (progress : Progress) _ => progress.tally.IsWithin)
    (fun _ target middle _ within => visit_within engine setting.campaign setting.isTest
      setting.excluded within target middle) Tally.isWithin_empty

/-- A walk leaves the tables ready for what follows it. -/
theorem walk_ready (keeps : engine.KeepsReady id) (setting : Setting Binary64) :
    Moves (Keeps fun store => store.Ready id) (setting.walk engine) := by
  refine walk_moves { message := ?_, cooldown := ?_ } setting
  · exact Send.message_moves keeps.exchange (fun _ _ ready => ⟨ready.created, ready.addable⟩)
      fun _ _ ready => ⟨ready.created, ready.addable⟩
  · exact record_moves fun _ _ ready => ⟨ready.created, ready.addable⟩

/-- A claim leaves the tables as ready as they were. -/
theorem Claims.ready {world middle : World σ Binary64} {old campaign : Campaign Binary64}
    (claims : Claims id world old campaign middle) (ready : world.store.Ready id) :
    middle.store.Ready id := by
  refine ready.of_standing ?_
  rw [claims.middle_eq]
  exact standing_updateCampaign world.store id _ fun _ => rfl

/-- A pass is refused, or it has claimed its campaign and moves it on or fails with it. -/
theorem execute_guarded (guarding : engine.Guarding id flag) (keeps : engine.KeepsReady id)
    {world : World σ Binary64} (ready : world.store.Ready id) (fits : Cell.fits id = true) :
    Ends (execute engine id) world fun result after =>
      match refusal? world.store id with
      | some failure => result = .error failure ∧ after = world
      | none =>
        match result with
        | .ok returned => ∃ stopped, Moved id flag stopped after returned.status
        | .error failure => Failed id flag failure after := by
  refine execute_claims ready.created fits ?_ ?_ ?_
  · intro failure refusal
    rw [refusal]
    exact ⟨rfl, rfl⟩
  · intro old campaign isTest count failure middle refusal claims
    have ready := claims.ready ready
    have guarded : Guarded id flag middle := claims.guarded
    rw [refusal]
    refine (close_failed claims.id_eq ready.created fits guarded Tally.isWithin_empty
      fun _ => ready.addable).mono ?_
    rintro _ after ⟨rfl, failed⟩
    exact failed
  · intro setting middle refusal begins
    obtain ⟨old, claims, _⟩ := begins.claims
    have ready := claims.ready ready
    rw [refusal]
    have walks := (walk_guarded guarding claims.id_eq claims.guarded).and
      ((walk_within engine setting middle).and ((walk_ready keeps setting).leads middle))
    refine walks.mono ?_
    rintro walked later ⟨⟨guarded, cancelled⟩, within, kept⟩
    refine (conclude_guarded guarding keeps claims.id_eq (kept ready) fits guarded cancelled
      within).mono fun result after concluded => ?_
    cases result with
    | ok returned => exact ⟨_, concluded⟩
    | error failure => exact concluded

theorem Moved.stands {stopped : Option Stopped} {after : World σ α} {status : CampaignStatus}
    (moved : Moved id flag stopped after status) : after.status? id = some status ∧
      status ∈ [CampaignStatus.completed, .active, .paused, .cancelled] := by
  cases moved with
  | left exit stands => exact ⟨stands, by cases exit <;> decide⟩
  | cancelled stands => exact ⟨stands, by decide⟩

/-- The outcomes of a pass: it is refused and changes nothing, it returns and tells where its
campaign stands, or it fails, and so has the campaign, unless it was cancelled during one of the
pass's calls to the outside. -/
inductive Outcome (id : Int) (before : World σ Binary64) (incidents : List (Incident σ Binary64)) :
    Except Failure PassResult → World σ Binary64 → Prop
  | refused {failure : Failure} (reason : refusal? before.store id = some failure) :
    Outcome id before incidents (.error failure) before
  | returned {result : PassResult} {after : World σ Binary64}
    (claims : refusal? before.store id = none) (stands : after.status? id = some result.status)
    (left : result.status ∈ [CampaignStatus.completed, .active, .paused, .cancelled]) :
    Outcome id before incidents (.ok result) after
  | failed {failure : Failure} {after : World σ Binary64} {campaign : Campaign Binary64}
    (claims : refusal? before.store id = none)
    (found : after.store.campaign? id = some campaign) (status : campaign.status = .failed)
    (reason : campaign.failureReason =
      some (Provider.cutText Lifecycle.reasonLength failure.reason)) :
    Outcome id before incidents (.error failure) after
  | cancelled {failure : Failure} {after : World σ Binary64}
    (claims : refusal? before.store id = none) (stands : after.status? id = some .cancelled)
    (cancels : ∃ incident ∈ incidents, incident.cancels id) :
    Outcome id before incidents (.error failure) after

theorem Outcome.sending {before after : World σ Binary64} {incidents : List (Incident σ Binary64)}
    {result : Except Failure PassResult} (outcome : Outcome id before incidents result after)
    (sending : after.status? id = some .sending) : after = before := by
  cases outcome with
  | refused => rfl
  | returned claims stands left =>
    rw [← Option.some.inj (sending.symm.trans stands)] at left
    exact absurd left (by decide)
  | failed claims found status =>
    rw [World.status?, found, Option.map_some, status] at sending
    cases sending
  | cancelled claims stands => cases sending.symm.trans stands

end Pass

namespace Sample

/-- An engine whose providers crash, and while they are asked the campaign is cancelled. -/
def crashing : Engine Unit Binary64 :=
  { (engine : OperatedEngine Unit Binary64).toEngine with
    exchange := fun _ => do
      let _ ← (OperatorAction.cancel 1).run
      throw (.crash "boom") }

theorem crashing_attended : crashing.Attended 1 where
  exchange _ := moves_run_bind
    (fun world => .single ((OperatorStep.act world (.cancel 1)).attendance 1)) fun _ => moves_throw
  beforeFinish _ := .refl

theorem funded_ready : (funded 4 : World Unit Binary64).store.Ready 1 where
  created := by decide +kernel
  addable := by
    unfold Store.Addable Binary64.IsAddable
    decide +kernel

end Sample

end Herald
