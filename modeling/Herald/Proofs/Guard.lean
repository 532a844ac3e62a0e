import Herald.Proofs.Recording
import Herald.Proofs.Sums
import Herald.Proofs.Turns
import Herald.Proofs.Visits

/-! # What a pass can rely on

A pass that has claimed its campaign finds it sending or cancelled ever after, until it moves the
campaign on itself: nothing else that happens meanwhile touches a campaign that is sending, and
nothing at all one that has been cancelled. `Guards` is this, with a `flag` on what is outside that
a cancellation raises, so that a campaign that is found cancelled is known to have been cancelled
while the pass was running.
-/

namespace Herald

variable {σ α β : Type}

/-- A campaign that a pass has claimed: it is sending, or has been cancelled since. -/
def Guarded (id : Int) (flag : σ → Prop) (world : World σ α) : Prop :=
  world.status? id = some .sending ∨ world.status? id = some .cancelled ∧ flag world.outside

/-- A campaign that is sending goes on with it unless it is cancelled, and cancelled it stays. -/
structure Guards (id : Int) (flag : σ → Prop) (before after : World σ α) : Prop where
  sending : before.status? id = some .sending → Guarded id flag after
  cancelled : before.status? id = some .cancelled → after.status? id = some .cancelled
  flagged : flag before.outside → flag after.outside

/-- A guarded campaign that is found cancelled has been cancelled since. -/
theorem Guarded.flagged {id : Int} {flag : σ → Prop} {world : World σ α}
    (guarded : Guarded id flag world) (cancelled : world.status? id = some .cancelled) :
    flag world.outside := by
  rcases guarded with sending | ⟨_, flagged⟩
  · cases sending.symm.trans cancelled
  · exact flagged

/-- A guarded campaign is not paused. -/
theorem Guarded.not_paused {id : Int} {flag : σ → Prop} {world : World σ α}
    (guarded : Guarded id flag world) : world.status? id ≠ some .paused := by
  rcases guarded with stands | ⟨stands, _⟩ <;> rw [stands] <;> rintro ⟨⟩

namespace Guards

variable {id : Int} {flag : σ → Prop} {before after : World σ α}

theorem of_eq (status : after.status? id = before.status? id)
    (outside : after.outside = before.outside) :
    Guards id flag before after where
  sending sending := .inl (status.trans sending)
  cancelled cancelled := status.trans cancelled
  flagged flagged := outside ▸ flagged

theorem guarded (guards : Guards id flag before after) (guarded : Guarded id flag before) :
    Guarded id flag after :=
  guarded.elim guards.sending fun cancelled =>
    .inr ⟨guards.cancelled cancelled.1, guards.flagged cancelled.2⟩

instance : IsPreorder (World σ α) (Guards id flag) where
  refl _ := .of_eq rfl rfl
  trans _ _ _ first second := {
    sending := fun sending => second.guarded (first.sending sending)
    cancelled := fun cancelled => second.cancelled (first.cancelled cancelled)
    flagged := fun flagged => second.flagged (first.flagged flagged) }

end Guards

/-! ## What happens around a pass -/

/-- Nothing but the end of its pass or a cancellation takes a campaign out of the sending state. -/
theorem Turn.cancels_of_sending {mark : Mark} {after : Option CampaignStatus}
    (turn : Turn (some mark) (some .sending) after) (spares : mark.endsPass = false) :
    after = some .cancelled := by
  generalize sends : some CampaignStatus.sending = before at turn
  cases turn with
  | begun runnable =>
    cases sends
    cases runnable
  | left exit => cases spares
  | failed => cases spares
  | expired => cases sends
  | cancelled => rfl

variable [Amount α]

/-- An operation moves along what the changes of lives and new campaigns move along. -/
theorem Operation.moves {R : World σ α → World σ α → Prop} [IsPreorder (World σ α) R]
    (allows : Lifecycle.Allows R)
    (creates : ∀ tenant draft, Moves R (Lifecycle.create tenant draft : Run σ α (Campaign α)).run)
    (operation : Operation) : Moves R (operation.run : Run σ α Bool).run := by
  cases operation with
  | create tenant draft => exact moves_run_bind (creates tenant draft) fun _ => moves_run_pure
  | operate action => exact moves_run_bind (action.moves allows) fun _ => moves_run_pure
  | begin id => exact moves_run_bind (Pass.begin_moves allows id) fun _ => moves_run_pure
  | finish id exit =>
    exact moves_run_bind moves_clock fun _ =>
      Lifecycle.transition_moves allows id _ fun _ => rfl
  | markFailed id reason => exact Lifecycle.markFailed_moves allows id reason
  | expire id now => exact Lifecycle.expire_moves allows id now

/-- One thing that happens around a pass of a campaign: any operation on stored campaigns that does
not end this very pass, or nothing to the store while time and the providers move on. -/
inductive Attendance (id : Int) : World σ α → World σ α → Prop
  | act (world : World σ α) (operation : Operation)
      (spares : ∀ mark ∈ operation.mark? id, mark.endsPass = false) :
      Attendance id world ((operation.run : Run σ α Bool).run.run world).2
  | elapse {before after : World σ α} (same : after.store = before.store) :
      Attendance id before after

/-- Nothing but what may happen around a pass of the campaign lies between two worlds. -/
def Attended (id : Int) : World σ α → World σ α → Prop := Relation.ReflTransGen (Attendance id)

instance (id : Int) : IsPreorder (World σ α) (Attended id) where
  refl _ := .refl
  trans _ _ _ := Relation.ReflTransGen.trans

/-- What no change of a life and no new campaign leaves is not left around a pass. -/
theorem Attended.related {R : World σ α → World σ α → Prop} [IsPreorder (World σ α) R] {id : Int}
    (allows : Lifecycle.Allows R)
    (creates : ∀ tenant draft, Moves R (Lifecycle.create tenant draft : Run σ α (Campaign α)).run)
    (elapses : ∀ before after : World σ α, after.store = before.store → R before after)
    {before after : World σ α} (attended : Attended id before after) : R before after := by
  induction attended with
  | refl => exact refl before
  | tail _ step ih =>
    refine IsTrans.trans _ _ _ ih ?_
    cases step with
    | act operation _ => exact operation.moves allows creates _
    | elapse same => exact elapses _ _ same

/-- Whoever does not end its pass does nothing to a campaign that is sending but cancel it, and
nothing to one that is cancelled. -/
theorem Attendance.guards {id : Int} {before after : World σ α}
    (step : Attendance id before after) : Guards id (fun _ => True) before after := by
  cases step with
  | elapse same =>
    have status : after.status? id = before.status? id := by rw [World.status?, same, World.status?]
    exact ⟨fun sending => .inl (status.trans sending), status.trans, fun _ => trivial⟩
  | act operation spares =>
    have turns : Ends operation.run before fun result after =>
        Turn (shown (operation.mark? id) result) (before.status? id) (after.status? id) :=
      operation.turns id before
    change Ends operation.run before fun _ after => Guards id (fun _ => True) before after
    refine Leads.mono turns fun result after turn => ?_
    refine ⟨fun sending => ?_, fun cancelled => ?_, fun _ => trivial⟩
    · rw [sending] at turn
      cases shows : shown (operation.mark? id) result with
      | none =>
        rw [shows] at turn
        exact .inl turn.sends
      | some mark =>
        rw [shows] at turn
        refine .inr ⟨turn.cancels_of_sending (spares mark ?_), trivial⟩
        unfold shown at shows
        split at shows
        · exact shows
        · cases shows
    · rw [cancelled] at turn
      exact (turn.still_of_terminal rfl).2

theorem Attended.guards {id : Int} {before after : World σ α} (attended : Attended id before after) :
    Guards id (fun _ => True) before after := by
  induction attended with
  | refl => exact refl before
  | tail _ step ih => exact IsTrans.trans _ _ _ ih step.guards

/-- Operators do not end passes. -/
theorem OperatorStep.attendance {before after : World σ α} (step : OperatorStep before after)
    (id : Int) : Attendance id before after := by
  cases step with
  | elapse same => exact .elapse same
  | act action =>
    have same := Run.worldAfter_then (action.run : Run σ α (Campaign α)) true before
    change Attendance id before ((action.run : Run σ α (Campaign α)).worldAfter before)
    rw [← same]
    refine .act before (.operate action) fun mark marks => ?_
    cases action with
    | cancel target =>
      simp only [Operation.mark?, Option.mem_ite_none_right, Option.mem_some_iff] at marks
      rw [← marks.2]
      rfl
    | _ => cases marks

theorem Operated.attended {before after : World σ α} (operated : Operated before after) (id : Int) :
    Attended id before after :=
  Relation.ReflTransGen.mono (fun _ _ (step : OperatorStep ..) => step.attendance id) _ _ operated

/-! ## Engines -/

/-- An engine whose surroundings leave a campaign to its pass. -/
structure Engine.Guarding (engine : Engine σ α) (id : Int) (flag : σ → Prop) : Prop where
  exchange : ∀ request, Moves (Guards id flag) (engine.exchange request).run
  beforeFinish : Moves (Guards id flag) engine.beforeFinish.run

/-- An engine around which anything happens to stored campaigns but that somebody else ends the
passes of one of them. -/
structure Engine.Attended (engine : Engine σ α) (id : Int) : Prop where
  exchange : ∀ request, Moves (Herald.Attended id) (engine.exchange request).run
  beforeFinish : Moves (Herald.Attended id) engine.beforeFinish.run

theorem OperatedEngine.attended (engine : OperatedEngine σ α) (id : Int) :
    engine.toEngine.Attended id where
  exchange request world := (engine.exchange_operated request world).attended id
  beforeFinish world := (engine.beforeFinish_operated world).attended id

theorem Engine.Attended.guarding {engine : Engine σ α} {id : Int} (attended : engine.Attended id) :
    engine.Guarding id fun _ => True where
  exchange request world := (attended.exchange request world).guards
  beforeFinish world := (attended.beforeFinish world).guards

/-- A call of a pass to the outside: its request, unless it is the call right before the campaign
leaves the sending state, and the worlds before and after it. -/
structure Incident (σ α : Type) where
  request? : Option Request
  before : World σ α
  after : World σ α

/-- A campaign is cancelled during the call. -/
def Incident.cancels (id : Int) (incident : Incident σ α) : Prop :=
  incident.before.status? id = some .sending ∧ incident.after.status? id = some .cancelled

/-- The calls of a pass to the outside, in their order. -/
def Pass.incidents (engine : Engine σ α) (id : Int) (world : World σ α) : List (Incident σ α) :=
  notes Incident.mk engine id world

omit [Amount α] in
/-- A call that is noted guards what it guards, and a cancellation is found in the notes. -/
theorem noted_guards {id : Int} {request? : Option Request} {action : Run σ α β}
    (guards : Moves (Guards id fun _ => True) action.run) :
    Moves (Guards id fun outside : σ × List (Incident σ α) =>
      ∃ incident ∈ outside.2, incident.cancels id)
        (Run.noted (Incident.mk request?) action).run := by
  intro world
  have guards := guards world.plain
  refine ⟨fun sending => ?_, guards.cancelled, ?_⟩
  · rcases guards.sending sending with sending' | cancelled
    · exact .inl sending'
    · exact .inr ⟨cancelled.1, _, List.mem_append_right _ (List.mem_singleton_self _), sending,
        cancelled.1⟩
  · rintro ⟨incident, member, cancels⟩
    exact ⟨incident, List.mem_append_left _ member, cancels⟩

theorem Engine.Attended.guarding_recording {engine : Engine σ α} {id : Int}
    (attended : engine.Attended id) :
    (engine.recording Incident.mk).Guarding id fun outside =>
      ∃ incident ∈ outside.2, incident.cancels id where
  exchange request := noted_guards (attended.guarding.exchange request)
  beforeFinish := noted_guards attended.guarding.beforeFinish

/-! ## Passes -/

/-- What a pass adds up is nothing to the status of a campaign. -/
theorem World.status?_of_sums {world : World σ α} {target : Int} {tally : Tally}
    {count : Option Cell} {now : Moment} {campaigns : List (Campaign α)}
    (sums : List.Forall₂ (Campaign.Sums target tally count now) world.store.campaigns campaigns)
    (id : Int) :
    World.status? { world with store := { world.store with campaigns } } id = world.status? id := by
  have related := campaign?_sums sums id
  unfold World.status?
  generalize world.store.campaign? id = before at related
  generalize ({ world.store with campaigns }.campaign? id) = after at related ⊢
  cases related with
  | none => rfl
  | some sums => exact congrArg some sums.status_eq

theorem Lifecycle.apply_guards (id target : Int) (flag : σ → Prop) (tally : Tally)
    (count : Option Cell) :
    Moves (Guards id flag) (Lifecycle.apply target tally count : Run σ α Bool).run :=
  Lifecycle.apply_moves fun _ _ sums => .of_eq (World.status?_of_sums sums id) rfl

namespace Pass

omit [Amount α] in
/-- A campaign that has been claimed is sending. -/
theorem Claims.guarded {id : Int} {flag : σ → Prop} {world middle : World σ α}
    {old campaign : Campaign α} (claims : Claims id world old campaign middle) :
    Guarded id flag middle := by
  refine .inl ?_
  rw [World.status?, claims.found_claimed, claims.campaign_eq]
  rfl

variable {engine : Engine σ α} {id : Int} {flag : σ → Prop} (guarding : engine.Guarding id flag)

include guarding

/-- A walk sends messages and records cooldowns, which is nothing to the status of a campaign. -/
theorem reaches_guards : engine.Reaches (Guards id flag) where
  message := Send.message_moves guarding.exchange (fun _ _ => .of_eq rfl rfl)
    fun _ _ => .of_eq rfl rfl
  cooldown := record_moves fun _ _ => .of_eq rfl rfl

omit guarding in
/-- A visit stops for a cancellation only if the campaign has been cancelled. -/
theorem visit_stopped (campaign : Campaign α) (isTest : Bool) (excluded : List Int)
    (progress : Progress) (target : TargetRecord) (world : World σ α) :
    Leads (visit engine campaign isTest excluded progress target) world fun visited _ =>
      visited.found.stopped = some .cancelled →
        progress.stopped = some .cancelled ∨ world.status? campaign.id = some .cancelled := by
  rw [visit, leads_bind]
  refine Leads.mono (Lifecycle.status?_found campaign.id world) ?_
  rintro (failure | status) middle ⟨rfl, found⟩
  · exact .inl
  · dsimp only
    split
    · rename_i cancelled
      rw [found status rfl, beq_iff_eq] at cancelled
      exact fun _ => .inr cancelled
    · split
      · exact .inl
      · split
        · exact .inl
        · rw [leads_bind]
          refine (leads_true _ _).mono fun served later _ => ?_
          rcases served with ⟨tally, delivered | delivered | failure⟩
          · refine leads_bind.mpr ((leads_true _ _).mono fun result after _ => ?_)
            cases result <;> exact .inl
          · refine leads_bind.mpr ((leads_true _ _).mono fun result after _ => ?_)
            cases result with
            | error failure => exact .inl
            | ok value => exact fun stopped => by cases stopped
          · exact .inl

/-- Behind a walk the campaign is still guarded, and it has been cancelled if that has stopped the
walk. -/
theorem walk_guarded {setting : Setting α} (own : setting.campaign.id = id) {world : World σ α}
    (guarded : Guarded id flag world) :
    Leads (setting.walk engine) world fun walked after => Guarded id flag after ∧
      (walked.1.stopped = some .cancelled → after.status? id = some .cancelled) := by
  refine Audience.walk_leads (I := fun (progress : Progress) after => Guarded id flag after ∧
    (progress.stopped = some .cancelled → after.status? id = some .cancelled)) ?_
      ⟨guarded, fun stopped => by cases stopped⟩
  rintro progress target middle _ ⟨guarded, stopped⟩
  have moves := visit_moves (reaches_guards guarding) setting.campaign setting.isTest
    setting.excluded progress target
  refine ((moves.leads middle).and (visit_stopped setting.campaign setting.isTest
    setting.excluded progress target middle)).mono ?_
  rintro visited after ⟨guards, stops⟩
  refine ⟨guards.guarded guarded, fun cancelled => guards.cancelled ?_⟩
  exact (stops cancelled).elim stopped fun found => own ▸ found

/-- How the campaign stands when a pass has moved it on: at one of the exits, or cancelled. -/
inductive Moved (id : Int) (flag : σ → Prop) (stopped : Option Stopped) (after : World σ α) :
    CampaignStatus → Prop
  | left (exit : Exit) (status : after.status? id = some exit.status)
    (going : stopped ≠ some .cancelled) (paused : stopped = some .outOfBalance → exit = .paused) :
    Moved id flag stopped after exit.status
  | cancelled (status : after.status? id = some .cancelled) (flagged : flag after.outside) :
    Moved id flag stopped after .cancelled

/-- How a pass has moved its campaign on, and where it tells that this stands; or it has failed
to. -/
def Finished (id : Int) (flag : σ → Prop) (stopped : Option Stopped) (after : World σ α) :
    Except Failure (Option CampaignStatus × Option Moment) → Prop
  | .error _ => Guarded id flag after
  | .ok (status, _) => ∃ told, status = some told ∧ Moved id flag stopped after told

omit [Amount α] guarding in
/-- A pass tells of a campaign that has been cancelled that it is so. -/
theorem status?_guarded {stopped : Option Stopped} {world : World σ α}
    (guarded : Guarded id flag world) (cancelled : world.status? id = some .cancelled) :
    Ends (do return (← Lifecycle.status? id, none) : Run σ α _) world fun result after =>
      Finished id flag stopped after result ∧
        (after.status? id = some .paused → stopped = some .outOfBalance) := by
  rw [ends_bind]
  refine Leads.mono (Lifecycle.status?_found id world) ?_
  rintro (failure | status) middle ⟨rfl, found⟩
  · exact ⟨guarded, fun paused => absurd paused guarded.not_paused⟩
  · exact ⟨⟨.cancelled, (found status rfl).trans cancelled,
      .cancelled cancelled (guarded.flagged cancelled)⟩,
        fun paused => absurd paused guarded.not_paused⟩

omit [Amount α] in
/-- A pass moves its campaign on unless it has been cancelled, tells where it stands then, and
pauses it only when its tenant could not pay. -/
theorem finish_exits {campaign : Campaign α} (own : campaign.id = id) {stopped : Option Stopped}
    {world : World σ α} (guarded : Guarded id flag world)
    (cancelled : stopped = some .cancelled → world.status? id = some .cancelled) :
    Ends (finish engine campaign stopped) world fun result after =>
      Finished id flag stopped after result ∧
        (after.status? id = some .paused → stopped = some .outOfBalance) := by
  rw [finish, ends_bind, ends_clock]
  dsimp only
  split
  · rename_i stops
    rw [own]
    exact status?_guarded guarded (cancelled (beq_iff_eq.mp stops))
  · rename_i going
    rw [ends_bind, ends_pure?]
    cases leaves : leaving engine.settings campaign (stopped == some .outOfBalance) world.now with
    | error failure => exact ⟨guarded, fun paused => absurd paused guarded.not_paused⟩
    | ok leaving =>
      obtain ⟨exit, leads⟩ := leaving_exit leaves
      have pauses : exit.status = .paused ↔ stopped = some .outOfBalance := by
        rw [← leads, leaving_paused leaves, beq_iff_eq]
      dsimp only
      rw [ends_bind]
      refine (guarding.beforeFinish.leads world).mono fun prepared later guards => ?_
      have guarded := guards.guarded guarded
      cases prepared with
      | error failure => exact ⟨guarded, fun paused => absurd paused guarded.not_paused⟩
      | ok _ =>
        dsimp only
        rw [ends_bind, Lifecycle.finish, own, leads]
        refine Lifecycle.ends_transition exit.status (fun _ => rfl) (fun _ => rfl)
          fun result after ending outside => ?_
        rcases result with failure | _ | _
        · have same : ∀ other, after.status? other = later.status? other := ending
          have guarded := (Guards.of_eq (same id) outside).guarded guarded
          exact ⟨guarded, fun paused => absurd paused guarded.not_paused⟩
        · -- The campaign does not leave the sending state, so it has been cancelled before.
          obtain ⟨waits, same⟩ := ending
          have guarded := (Guards.of_eq (same id) outside).guarded guarded
          have cancelled : after.status? id = some .cancelled := by
            refine guarded.elim (fun sending => ?_) And.left
            rw [same id] at sending
            exact absurd (waits _ sending) (by decide)
          dsimp only
          rw [if_neg Bool.false_ne_true]
          exact status?_guarded guarded cancelled
        · refine ⟨⟨_, rfl, .left exit ending.status_eq (fun stops => going ?_) fun broke => ?_⟩,
            fun paused => pauses.mp (Option.some.inj (ending.status_eq.symm.trans paused))⟩
          · rw [stops]
            rfl
          · have paused := pauses.mpr broke
            cases exit <;> first | rfl | cases paused

omit [Amount α] in
/-- A pass moves its campaign on unless it has been cancelled, and tells where it stands then. -/
theorem finish_guarded {campaign : Campaign α} (own : campaign.id = id) {stopped : Option Stopped}
    {world : World σ α} (guarded : Guarded id flag world)
    (cancelled : stopped = some .cancelled → world.status? id = some .cancelled) :
    Ends (finish engine campaign stopped) world fun result after =>
      Finished id flag stopped after result :=
  (finish_exits guarding own guarded cancelled).mono fun _ _ => And.left

end Pass

end Herald
