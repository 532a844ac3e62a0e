import Herald.Proofs.Recounts

/-! # Passes that are cancelled

An operator may cancel a campaign while its pass waits for a provider. The pass notices that before
its next target, when it would move the campaign on, or when it would record a failure, and wherever
that is, it leaves the same behind: nothing for any other target, what has been written and counted
by then, and the campaign as the operator has left it. `Interrupted` is this, and the walk of a pass
keeps it from the call on.
-/

namespace Herald

variable {σ α : Type} [Amount α]

namespace Pass

/-- How a pass stands behind a call during which its campaign was cancelled at a time. What has been
written before the call is kept, and what has been written since is about the same target. -/
structure Interrupted (engine : Engine σ α) (campaign : Campaign α) (incident : Incident σ α)
    (later : List (Incident σ α)) (now : Moment) (after : Store α) : Prop where
  attempts : ∃ target delivered, Attempts engine campaign target (channelsFor campaign.reach target)
      after.messages incident (later.filter fun call => call.request?.isSome) ∧
    Cools campaign target delivered incident.before.store after
  life : after.life? campaign.id =
    some ⟨.cancelled, none, some now, campaign.lastRunAt, campaign.runCount⟩

/-- A campaign in its pass: it is underway with the runs that it had, and behind every call during
which it was cancelled the pass stands halted. -/
structure Halts (engine : Engine σ α) (campaign : Campaign α) (world : Watched σ α) : Prop where
  life : ∃ life, world.store.life? campaign.id = some life ∧ life.IsUnderway ∧
    life.lastRunAt = campaign.lastRunAt ∧ life.runCount = campaign.runCount
  halted : ∀ earlier incident later now, world.outside.2 = earlier ++ incident :: later →
    incident.CancelsAt campaign.id now → Interrupted engine campaign incident later now world.store

omit [Amount α] in
/-- Calls that follow channels are all calls to providers. -/
theorem Follows.filter_eq {engine : Engine σ α} {content : Content} {target : TargetRecord}
    {channels : List Channel} {calls : List (Incident σ α)}
    (follows : Follows engine content target channels calls) :
    calls.filter (fun call => call.request?.isSome) = calls := by
  induction follows with
  | ends => rfl
  | silent follows ih => exact ih
  | asked asks follows ih =>
    obtain ⟨request, asked, _⟩ := asks
    rw [List.filter_cons_of_pos (by rw [asked]; rfl), ih]

/-- A member of two lists splits the one that it is in. -/
theorem split_append {β : Type} {left right earlier later : List β} {member : β}
    (split : left ++ right = earlier ++ member :: later) :
    (∃ between, left = earlier ++ member :: between ∧ later = between ++ right) ∨
      ∃ between, right = between ++ member :: later := by
  rcases List.append_eq_append_iff.mp split with ⟨between, _, same⟩ | ⟨between, same, behind⟩
  · exact .inr ⟨between, same⟩
  · cases between with
    | nil => exact .inr ⟨[], behind.symm⟩
    | cons first rest =>
      cases behind
      exact .inl ⟨rest, same, rfl⟩

variable {engine : Engine σ α} {id : Int}

section Walk

variable (attended : engine.Attended id)

include attended

/-- A visit keeps a pass halted that is, and halts it if the campaign is cancelled during one of its
calls. -/
theorem visit_halts {campaign : Campaign α} (own : campaign.id = id) (isTest : Bool)
    (excluded : List Int) (progress : Progress) (target : TargetRecord) {world : Watched σ α}
    (halts : Halts engine campaign world) :
    Leads (visit (engine.recording Incident.mk) campaign isTest excluded progress target) world
      fun _ after => Halts engine campaign after := by
  subst own
  obtain ⟨life, here, underway, runs⟩ := halts.life
  have sustained := visit_moves (reaches_sustains attended) campaign isTest excluded progress target
  refine ((visit_calls attended campaign isTest excluded progress target world).and
    ((visit_leads (keepsLedgers_recording attended) campaign isTest excluded progress target
      world).and (sustained.leads world))).mono ?_
  rintro _ after ⟨⟨still, calls, made⟩, ⟨rows, delivered, _, _, cools⟩, sustains⟩
  by_cases cancelled : world.status? campaign.id = some .cancelled
  · exact still cancelled ▸ halts
  · -- Nobody has cancelled the campaign by now, so every cancellation is among the new calls.
    have sending : life.status = .sending := underway.resolve_right fun is =>
      cancelled ((World.status?_eq_of_life? here).trans (congrArg some is))
    have none : ∀ incident ∈ world.outside.2, ∀ now, ¬ incident.CancelsAt campaign.id now := by
      intro incident member now cancels
      obtain ⟨earlier, later, split⟩ := List.append_of_mem member
      have lives := (halts.halted earlier incident later now split cancels).life
      cases sending.symm.trans (congrArg Life.status (Option.some.inj (here.symm.trans lives)))
    refine ⟨?_, fun earlier incident later now split cancels => ?_⟩
    · obtain ⟨later, there, proceeds⟩ := sustains life here underway
      exact ⟨later, there, proceeds.isUnderway underway, proceeds.runs_eq.1.trans runs.1,
        proceeds.runs_eq.2.trans runs.2⟩
    · rw [made.noted] at split
      obtain ⟨between, split⟩ := (split_append split).resolve_left fun ⟨_, old, _⟩ =>
        none incident (old ▸ List.mem_append_right _ (List.mem_cons_self ..)) now cancels
      obtain ⟨within, attempts⟩ := made.amid between incident later split
      obtain ⟨asking, found, proceeds⟩ := within.ahead life here underway
      obtain ⟨stands, changed⟩ := cancels.life found (proceeds.isUnderway underway)
      obtain rfl := proceeds.eq_of_sending stands
      obtain ⟨last, there, proceeds⟩ := within.behind _ changed (.inr rfl)
      obtain rfl := proceeds.eq_of_cancelled rfl
      refine ⟨⟨target, delivered, ?_, cools.from within.cooldowns_eq.symm⟩, ?_⟩
      · obtain ⟨first, channel, rest, rows, channels, isFor, follows, about⟩ := attempts
        exact ⟨first, channel, rest, rows, channels, isFor, follows.filter_eq.symm ▸ follows, about⟩
      · rw [there, ← runs.1, ← runs.2]
        rfl

/-- Behind a walk the pass stands halted for every call during which its campaign was cancelled. -/
theorem walk_halts {setting : Setting α} (own : setting.campaign.id = id) {world : Watched σ α}
    (halts : Halts engine setting.campaign world) :
    Leads (setting.walk (engine.recording Incident.mk)) world fun _ after =>
      Halts engine setting.campaign after :=
  Audience.walk_leads (I := fun (_ : Progress) after => Halts engine setting.campaign after)
    (fun progress target _ _ halts => visit_halts attended own setting.isTest setting.excluded
      progress target halts) halts

end Walk

/-! ## What follows the walk -/

/-- Nothing is sent any more, and what has been written is kept: the log, the cooldowns, and the
life of a campaign that has been cancelled. -/
structure Mutes (id : Int) (before after : Watched σ α) : Prop where
  messages_eq : after.store.messages = before.store.messages
  cooldowns_eq : after.store.cooldowns = before.store.cooldowns
  calls : ∃ more, after.outside.2 = before.outside.2 ++ more ∧ ∀ call ∈ more, call.request? = none
  frozen : ∀ life, before.store.life? id = some life → life.status = .cancelled →
    after.store.life? id = some life

omit [Amount α] in
theorem Mutes.of_eq {before after : Watched σ α}
    (messages : after.store.messages = before.store.messages)
    (cooldowns : after.store.cooldowns = before.store.cooldowns)
    (calls : after.outside.2 = before.outside.2)
    (frozen : ∀ life, before.store.life? id = some life → life.status = .cancelled →
      after.store.life? id = some life) : Mutes id before after :=
  ⟨messages, cooldowns, ⟨[], calls.trans (List.append_nil _).symm, List.forall_mem_nil _⟩, frozen⟩

instance : IsPreorder (Watched σ α) (Mutes id) where
  refl _ := .of_eq rfl rfl rfl fun _ here _ => here
  trans _ _ _ first second := {
    messages_eq := second.messages_eq.trans first.messages_eq
    cooldowns_eq := second.cooldowns_eq.trans first.cooldowns_eq
    calls := by
      obtain ⟨more, noted, mute⟩ := first.calls
      obtain ⟨further, noted', mute'⟩ := second.calls
      refine ⟨more ++ further, by rw [noted', noted, List.append_assoc], fun call member => ?_⟩
      exact (List.mem_append.mp member).elim (mute call) (mute' call)
    frozen := fun life here cancelled =>
      second.frozen life (first.frozen life here cancelled) cancelled }

omit [Amount α] in
/-- A pass that stands halted stays so while nothing is sent. -/
theorem Interrupted.mutes {campaign : Campaign α} {incident : Incident σ α}
    {later : List (Incident σ α)} {now : Moment} {before after : Watched σ α}
    (halted : Interrupted engine campaign incident later now before.store)
    (mutes : Mutes campaign.id before after) {more : List (Incident σ α)}
    (mute : ∀ call ∈ more, call.request? = none) :
    Interrupted engine campaign incident (later ++ more) now after.store where
  attempts := by
    obtain ⟨target, delivered, attempts, cools⟩ := halted.attempts
    have none : more.filter (fun call => call.request?.isSome) = [] :=
      List.filter_eq_nil_iff.mpr fun call member => by rw [mute call member]; simp
    refine ⟨target, delivered, ?_, ?_⟩
    · rw [List.filter_append, none, List.append_nil, mutes.messages_eq]
      exact attempts
    · rw [Cools, mutes.cooldowns_eq]
      exact cools
  life := mutes.frozen _ halted.life rfl

omit [Amount α] in
/-- A transition that no cancelled campaign makes. -/
theorem transition_mutes (target : Int) {allowed : CampaignStatus → Bool}
    {change : Campaign α → Campaign α} (ids : ∀ campaign, (change campaign).id = campaign.id)
    (ends : allowed .cancelled = false) :
    Moves (Mutes id : Watched σ α → Watched σ α → Prop)
      (Lifecycle.transition target allowed change : Run (σ × List (Incident σ α)) α Bool).run := by
  refine moves_iff.mpr fun world => ?_
  have frozen : ∀ life, world.store.life? id = some life → life.status = .cancelled →
      Ends (Lifecycle.transition target allowed change) world fun _ after =>
        after.store.life? id = some life := by
    intro life here cancelled
    obtain ⟨old, found, rfl⟩ := Option.map_eq_some_iff.mp here
    refine (Lifecycle.transition_life target allowed ids found).mono ?_
    rintro _ after (same | ⟨_, allows, _⟩)
    · exact same
    · have stands : old.status = .cancelled := cancelled
      rw [stands, ends] at allows
      cases allows
  have frozen : Ends (Lifecycle.transition target allowed change) world fun _ after =>
      ∀ life, world.store.life? id = some life → life.status = .cancelled →
        after.store.life? id = some life := frozen
  refine Leads.mono (Leads.and (Lifecycle.transition_ends target allowed change world) frozen) ?_
  rintro (failure | changed) after ⟨wrote, frozen⟩
  · cases wrote
    exact refl world
  · obtain ⟨_, rfl⟩ := wrote
    exact .of_eq rfl rfl rfl frozen

theorem apply_mutes (target : Int) (tally : Tally) (count : Option Cell) :
    Moves (Mutes id : Watched σ α → Watched σ α → Prop)
      (Lifecycle.apply target tally count : Run (σ × List (Incident σ α)) α Bool).run :=
  Lifecycle.apply_moves fun _ _ sums =>
    .of_eq rfl rfl rfl fun _ here _ => (Store.life?_of_sums sums id).trans here

omit [Amount α] in
theorem markFailed_mutes (target : Int) (reason : String) :
    Moves (Mutes id : Watched σ α → Watched σ α → Prop)
      (Lifecycle.markFailed target reason : Run (σ × List (Incident σ α)) α Bool).run :=
  moves_run_bind moves_clock fun _ => transition_mutes target (fun _ => rfl) rfl

omit [Amount α] in
theorem journal_mutes (line : String) : Moves (Mutes id : Watched σ α → Watched σ α → Prop)
    (Run.record line : Run (σ × List (Incident σ α)) α Unit).run :=
  fun _ => .of_eq rfl rfl rfl fun _ here _ => here

/-- What follows a walk sends nothing, and does nothing to a campaign that has been cancelled. -/
theorem conclude_mutes (attended : engine.Attended id) (setting : Setting α)
    (walked : Progress × Option Failure) :
    Moves (Mutes id) (setting.conclude (engine.recording Incident.mk) walked).run := by
  refine conclude_moves_of (apply_mutes _) (markFailed_mutes _) journal_mutes rfl
    (finish_moves_of (fun _ _ _ _ => transition_mutes _ (fun _ => rfl) rfl) fun world => ?_) walked
  have happened := attended.beforeFinish world.plain
  refine ⟨happened.agrees fun _ _ => rfl, happened.agrees fun _ _ => rfl,
    ⟨_, rfl, List.forall_mem_singleton.mpr rfl⟩, fun life here cancelled => ?_⟩
  obtain ⟨later, there, proceeds⟩ := happened.sustains life here (.inr cancelled)
  exact there.trans (congrArg some (proceeds.eq_of_cancelled cancelled))

/-- A pass stands halted behind every call to a provider during which its campaign was cancelled. -/
theorem execute_halted (attended : engine.Attended id) (world : World σ α) :
    Ends (execute engine id) world fun _ after => ∀ earlier incident later request now,
      incidents engine id world = earlier ++ incident :: later → incident.request? = some request →
        incident.CancelsAt id now → ∃ old, world.store.campaign? id = some old ∧
          Interrupted engine old incident later now after.store := by
  let holds (calls : List (Incident σ α)) (_ : Except Failure PassResult) (after : World σ α) : Prop :=
    ∀ earlier incident later request now, calls = earlier ++ incident :: later →
      incident.request? = some request → incident.CancelsAt id now →
        ∃ old, world.store.campaign? id = some old ∧
          Interrupted engine old incident later now after.store
  suffices recorded : Ends (execute (engine.recording Incident.mk) id) (world.beside [])
      fun result later => holds later.outside.2 result later.plain from ends_of_recorded recorded
  refine execute_ends (fun failure earlier incident later request now split => ?_) ?_ ?_
  · cases List.append_ne_nil_of_right_ne_nil earlier (List.cons_ne_nil incident later) split.symm
  · intro old campaign isTest count failure middle claims
    refine ((close_moves_of (R := Mutes id) (apply_mutes _) (markFailed_mutes _) journal_mutes isTest _
      _).leads middle).mono ?_
    rintro result after mutes earlier incident later request now split asked
    obtain ⟨more, noted, mute⟩ := mutes.calls
    have none : middle.outside.2 = [] := by rw [claims.middle_eq]; rfl
    rw [noted, none, List.nil_append] at split
    cases (mute incident (split ▸ List.mem_append_right _ (List.mem_cons_self ..))).symm.trans asked
  · intro setting middle walks
    obtain ⟨old, claims, _⟩ := walks.claims
    have none : middle.outside.2 = [] := by rw [claims.middle_eq]; rfl
    have halts : Halts engine setting.campaign middle := by
      refine ⟨⟨setting.campaign.life, ?_, .inl ?_, rfl, rfl⟩,
        fun earlier incident later now split => ?_⟩
      · rw [claims.id_eq, Store.life?, claims.found_claimed, Option.map_some]
      · rw [claims.campaign_eq]
        rfl
      · rw [none] at split
        cases List.append_ne_nil_of_right_ne_nil earlier (List.cons_ne_nil incident later) split.symm
    refine (walk_halts attended claims.id_eq halts).mono fun walked later halts => ?_
    refine ((conclude_mutes attended setting walked).leads later).mono ?_
    rintro result after mutes earlier incident further request now split asked cancels
    obtain ⟨more, noted, mute⟩ := mutes.calls
    rw [noted] at split
    obtain ⟨between, walked, rfl⟩ | ⟨_, new⟩ := split_append split
    case inr =>
      cases (mute incident (new ▸ List.mem_append_right _ (List.mem_cons_self ..))).symm.trans asked
    obtain rfl := claims.id_eq
    have halted := (halts.halted earlier incident between now walked cancels).mutes mutes mute
    rw [claims.campaign_eq] at halted
    exact ⟨old, claims.found, halted.attempts, halted.life⟩

/-! ## The calls as they are made -/

/-- What holds of the calls that have been made goes on to hold of all. -/
def KeepsCalls (P : Incident σ α → Prop) (before after : Watched σ α) : Prop :=
  (∀ call ∈ before.outside.2, P call) → ∀ call ∈ after.outside.2, P call

omit [Amount α] in
theorem KeepsCalls.of_eq {P : Incident σ α → Prop} {before after : Watched σ α}
    (same : after.outside.2 = before.outside.2) : KeepsCalls P before after :=
  fun holds => same ▸ holds

instance (P : Incident σ α → Prop) : IsPreorder (Watched σ α) (KeepsCalls P) where
  refl _ holds := holds
  trans _ _ _ first second holds := second (first holds)

/-- What holds of every call that an engine can make holds of the calls of its passes. -/
theorem incidents_all {P : Incident σ α → Prop}
    (asks : ∀ request world, P ⟨some request, world, ((engine.exchange request).run.run world).2⟩)
    (prepares : ∀ world, P ⟨none, world, (engine.beforeFinish.run.run world).2⟩) (id : Int)
    (world : World σ α) : ∀ incident ∈ incidents engine id world, P incident := by
  have notes : ∀ (world : Watched σ α) call, P call → (∀ call ∈ world.outside.2, P call) →
      ∀ other ∈ world.outside.2 ++ [call], P other := fun world call new old =>
    List.forall_mem_append.mpr ⟨old, List.forall_mem_singleton.mpr new⟩
  have respects : (engine.recording Incident.mk).Respects (KeepsCalls P) := {
    message := Send.message_moves (fun request world => notes world _ (asks request world.plain))
      (fun _ _ => .of_eq rfl) fun _ _ => .of_eq rfl
    cooldown := record_moves fun _ _ => .of_eq rfl
    life := fun _ _ _ _ _ => .of_eq rfl
    tally := fun _ _ _ => Lifecycle.apply_moves fun _ _ _ => .of_eq rfl
    beforeFinish := fun world => notes world _ (prepares world.plain)
    journal := fun _ _ => .of_eq rfl }
  exact execute_moves respects id (world.beside []) (List.forall_mem_nil _)

/-- A call to a provider that is noted is what the engine has done. -/
theorem incidents_happen (engine : Engine σ α) (id : Int) (world : World σ α) :
    ∀ incident ∈ incidents engine id world, ∀ request, incident.request? = some request →
      incident.after = ((engine.exchange request).run.run incident.before).2 := by
  refine incidents_all (fun request world other same => ?_) (fun world other same => ?_) id world
  · cases same
    rfl
  · cases same

end Pass

/-- Whichever call to a provider its campaign is cancelled during, a pass leaves the same behind,
and however it ends: at most the remaining channels of the target are attempted, what has been
written by then is kept, and the campaign is cancelled as of then, with the runs that it had. The
messages of the pass are still added up. -/
theorem cancelled_pass_halts {engine : Engine σ Binary64} {id : Int} (attended : engine.Attended id)
    (world : World σ Binary64) :
    Ends (Pass.execute engine id) world fun _ after => ∀ earlier incident later request now,
      Pass.incidents engine id world = earlier ++ incident :: later →
        incident.request? = some request → incident.CancelsAt id now →
          ∃ old, world.store.campaign? id = some old ∧
            Pass.Interrupted engine old incident later now after.store ∧
            (world.store.Addable id → ∃ new rows, after.store.campaign? id = some new ∧
              after.store.messages = world.store.messages ++ rows ∧ old.Gains rows new) := by
  by_cases adds : (∃ old, world.store.campaign? id = some old) ∧ world.store.Addable id
  · obtain ⟨⟨old, found⟩, addable⟩ := adds
    refine ((Pass.execute_halted attended world).and
      (Pass.execute_gains attended found addable)).mono ?_
    rintro result after ⟨halted, gains⟩ earlier incident later request now split asked cancels
    obtain ⟨other, found', halted⟩ := halted earlier incident later request now split asked cancels
    cases found.symm.trans found'
    exact ⟨old, found, halted, fun _ => gains⟩
  · refine (Pass.execute_halted attended world).mono ?_
    rintro result after halted earlier incident later request now split asked cancels
    obtain ⟨old, found, halted⟩ := halted earlier incident later request now split asked cancels
    exact ⟨old, found, halted, fun addable => absurd ⟨⟨old, found⟩, addable⟩ adds⟩

namespace Sample

/-- An engine whose providers take every message, and while they are asked the campaign is
cancelled. -/
def cancelling : Engine Unit Binary64 :=
  { (engine : OperatedEngine Unit Binary64).toEngine with
    exchange := fun request => do
      let _ ← Run.attempt (OperatorAction.cancel 1).run
      engine.exchange request }

theorem cancelling_attended : cancelling.Attended 1 where
  exchange request world := .tail
    (.single ((OperatorStep.act world (.cancel 1)).attendance 1))
    (.elapse (by cases request <;> rfl))
  beforeFinish _ := .refl

end Sample

/-- The text message is under way when the campaign is cancelled, and the e-mail to the same target
still goes out. -/
theorem sample_cancelled_pass_halts : Sample.cancelling.Attended 1 ∧
    ∃ incident later request,
      Pass.incidents Sample.cancelling 1 (Sample.funded 5) = [] ++ incident :: later ∧
      incident.request? = some request ∧ incident.CancelsAt 1 Sample.dawn ∧
      Ends (Pass.execute Sample.cancelling 1) (Sample.funded 5) fun _ after =>
        (after.store.messages.map fun row => (row.channel, row.status)) =
            [(.sms, .sent), (.email, .sent)] ∧
        ∃ old, Pass.Interrupted Sample.cancelling old incident later Sample.dawn after.store ∧
          ∃ new rows, after.store.campaign? 1 = some new ∧ old.Gains rows new := by
  let world : World Unit Binary64 := Sample.funded 5
  have shape : ((Pass.incidents Sample.cancelling 1 world).head?.any fun incident =>
      incident.request?.isSome && incident.before.status? 1 == some .sending &&
        incident.before.now == Sample.dawn &&
        ((Lifecycle.cancel 1).run.run incident.before).1.toOption.isSome) = true := by
    decide +kernel
  have sends : Ends (Pass.execute Sample.cancelling 1) world fun _ after =>
      (after.store.messages.map fun row => (row.channel, row.status)) =
        [(.sms, .sent), (.email, .sent)] := by
    unfold Ends Leads
    decide +kernel
  have addable : world.store.Addable 1 := by
    unfold Store.Addable Binary64.IsAddable
    decide +kernel
  obtain ⟨incident, first, holds⟩ := (Option.any_eq_true _ _).mp shape
  obtain ⟨later, split⟩ := List.head?_eq_some_iff.mp first
  simp only [Bool.and_eq_true, beq_iff_eq, Option.isSome_iff_exists] at holds
  obtain ⟨⟨⟨⟨request, asked⟩, sending⟩, dawn⟩, campaign, cancelled⟩ := holds
  have after : incident.after = ((Lifecycle.cancel 1).run.run incident.before).2 :=
    (Pass.incidents_happen _ _ _ incident (split ▸ List.mem_cons_self ..) request asked).trans
      (by cases request <;> rfl)
  have cancels : incident.CancelsAt 1 Sample.dawn :=
    ⟨incident.before, incident.after, campaign, .refl, sending, dawn,
      Prod.ext (ok_of_toOption cancelled) after.symm, .refl⟩
  refine ⟨Sample.cancelling_attended, incident, later, request, split, asked, cancels, ?_⟩
  refine Leads.and sends ?_
  refine (cancelled_pass_halts Sample.cancelling_attended world).mono fun result after halts => ?_
  obtain ⟨old, _, halted, gains⟩ := halts [] incident later request Sample.dawn split asked cancels
  obtain ⟨new, rows, found, _, gains⟩ := gains addable
  exact ⟨old, halted, new, rows, found, gains⟩

end Herald
