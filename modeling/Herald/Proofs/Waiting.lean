import Herald.Proofs.Coherence

/-! # What campaigns wait for

A campaign that repeats is active while it waits for its next pass, and one that runs once is
scheduled, so the scheduler finds either of them once its time has come. Nothing keeps a campaign
that repeats from being scheduled, though, and such a campaign is found by nobody.
-/

namespace Herald

variable {σ α : Type} [Amount α] {schedulable : Campaign α → Prop}

/-! ## Operators -/

/-- An operation succeeds only on a campaign that it changes. -/
theorem Operation.changes_of_succeeds {operation : Operation} {id : Int} {world : World σ α}
    (about : operation.target? = some id) :
    Ends operation.run world fun result _ => result = .ok true →
      ∃ old new, world.store.campaign? id = some old ∧ operation.Changes old new := by
  refine Leads.mono (operation.wrote world) fun result after wrote same => ?_
  cases wrote with
  | refused fails => exact absurd same fails
  | made creates =>
    rw [creates] at about
    cases about
  | attempted about' ids changes succeeds =>
    cases about.symm.trans about'
    obtain ⟨old, found, holds⟩ := succeeds.mp same
    exact ⟨old, _, found, changes old found holds⟩

/-! ## The scheduler -/

/-- If no campaign that repeats is scheduled by an operator, none is ever scheduled. -/
theorem Campaign.Step.once (once : ∀ campaign, schedulable campaign → campaign.isAutomated = false)
    {old new : Campaign α} (step : Campaign.Step schedulable old new)
    (waits : old.status = .scheduled → old.isAutomated = false) :
    new.status = .scheduled → new.isAutomated = false := by
  cases step with
  | summed => exact waits
  | operated operated =>
    obtain ⟨operation, suits, changes⟩ := operated
    cases changes with
    | scheduled => exact fun _ => once old suits
    | resumed once => exact fun _ => once
    | @left _ exit => cases exit <;> rintro ⟨⟩
    | _ => rintro ⟨⟩

namespace RunWindow

/-- Whether a window of whole hours is open can be told wherever there is a wall clock. -/
theorem isOpenAt_ok {window : RunWindow} {zone : Zone} {now : Moment} (whole : window.IsWhole)
    (wall : (zone.wall? now).isSome = true) : ∃ isOpen, window.isOpenAt zone now = .ok isOpen := by
  obtain ⟨time, wall⟩ := Option.isSome_iff_exists.mp wall
  unfold isOpenAt
  cases hours : window.hours? with
  | none => exact ⟨true, rfl⟩
  | some hours' =>
    unfold hours? at hours
    split at hours
    · rename_i start finish started finished
      obtain ⟨first, rfl⟩ := whole.1 start started
      obtain ⟨last, rfl⟩ := whole.2 finish finished
      split at hours
      · cases hours
      · cases hours
        rw [RunWindow.wall, wall]
        exact ⟨_, rfl⟩
    · cases hours

end RunWindow

namespace Scheduler

omit [Amount α] in
/-- If it can be told of each campaign whether its window is open, those with open windows
remain. -/
theorem openOnes_ok {zone : Zone} {now : Moment} {campaigns : List (Campaign α)}
    (tells : ∀ campaign ∈ campaigns, ∃ isOpen, Scheduler.isOpen zone now campaign = .ok isOpen) :
    ∃ rest, openOnes zone now campaigns = .ok rest ∧
      ∀ campaign ∈ campaigns, Scheduler.isOpen zone now campaign = .ok true → campaign ∈ rest := by
  induction campaigns with
  | nil => exact ⟨[], rfl, List.forall_mem_nil _⟩
  | cons first others ih =>
    obtain ⟨head, tail⟩ := List.forall_mem_cons.mp tells
    obtain ⟨isOpen, told⟩ := head
    obtain ⟨rest, remains, among⟩ := ih tail
    refine ⟨if isOpen then first :: rest else rest, ?_, ?_⟩
    · rw [openOnes, told, remains]
      rfl
    · refine List.forall_mem_cons.mpr ⟨fun opens => ?_, fun campaign member opens => ?_⟩
      · cases told.symm.trans opens
        exact List.mem_cons_self ..
      · split
        · exact List.mem_cons_of_mem _ (among campaign member opens)
        · exact among campaign member opens

omit [Amount α] in
/-- A campaign whose id a table takes is completed if it is active. -/
theorem expire_completes {id : Int} {now : Moment} {world : World σ α}
    (created : world.store.created = true) (fits : Cell.fits id = true) (other : Int) :
    Ends (Lifecycle.expire id now) world fun result after => (∃ expired, result = .ok expired) ∧
      after.store.created = true ∧ after.status? other = (world.status? other).map fun status =>
        if other == id && status == .active then .completed else status := by
  refine ((Lifecycle.transition_ends id _ _ world).and
    (Lifecycle.transition_succeeds _ _ created fits)).mono ?_
  rintro _ after ⟨wrote, expired, rfl⟩
  obtain ⟨_, rfl⟩ := wrote
  exact ⟨⟨expired, rfl⟩, created, Lifecycle.status?_updateCampaign world id other (· == .active)
    (fun _ => rfl) fun _ => rfl⟩

omit [Amount α] in
/-- An active campaign among those that are completed is completed. -/
theorem expireAll_completes {now : Moment} {id : Int} {campaigns : List (Campaign α)}
    (fits : ∀ campaign ∈ campaigns, Cell.fits campaign.id = true) {world : World σ α}
    (created : world.store.created = true)
    (stands : world.status? id = some .completed ∨
      world.status? id = some .active ∧ ∃ campaign ∈ campaigns, campaign.id = id) :
    Ends (expireAll now campaigns) world fun result after =>
      (∃ count, result = .ok count) ∧ after.status? id = some .completed := by
  induction campaigns generalizing world with
  | nil =>
    refine ⟨⟨0, rfl⟩, stands.resolve_right ?_⟩
    rintro ⟨_, _, member, _⟩
    cases member
  | cons first others ih =>
    obtain ⟨fitsFirst, fitsOthers⟩ := List.forall_mem_cons.mp fits
    rw [expireAll, ends_bind]
    refine (expire_completes created fitsFirst id).mono ?_
    rintro _ middle ⟨⟨expired, rfl⟩, created, moved⟩
    have stands : middle.status? id = some .completed ∨
        middle.status? id = some .active ∧ ∃ campaign ∈ others, campaign.id = id := by
      rw [moved]
      rcases stands with completed | ⟨active, campaign, member, about⟩
      · exact .inl (by simp [completed])
      · by_cases own : id = first.id
        · exact .inl (by rw [active, own]; simp)
        · refine .inr ⟨by simp [active, own], campaign, ?_, about⟩
          refine (List.mem_cons.mp member).resolve_left ?_
          rintro rfl
          exact own about.symm
    dsimp only
    rw [ends_bind]
    refine (ih fitsOthers created stands).mono ?_
    rintro _ after ⟨⟨count, rfl⟩, completed⟩
    exact ⟨⟨_, rfl⟩, completed⟩

/-- The scheduler finds a campaign at a time: it is among those to run if its run window is open, or
it is one of those that have ended, and is completed. -/
def Finds (engine : Engine σ α) (now : Moment) (world : World σ α) (campaign : Campaign α) : Prop :=
  (Ends (due engine now) world fun result after => after = world ∧
    ∃ campaigns, result = .ok campaigns ∧
      (isOpen engine.settings.zone now campaign = .ok true → campaign ∈ campaigns)) ∨
  Ends (expireEnded now) world fun result after =>
    (∃ count, result = .ok count) ∧ after.status? campaign.id = some .completed

end Scheduler

namespace Reached

variable {world : World σ α} (reached : Reached schedulable world)

include reached

/-- What is settled about a campaign is what was submitted. -/
theorem submitted {campaign : Campaign α} (member : campaign ∈ world.store.campaigns) :
    ∃ draft : Draft, draft.IsPlain ∧ campaign.recurrence = draft.recurrence ∧
      campaign.window = draft.window := by
  obtain ⟨tenant, now, draft, plain, becomes⟩ := reached.becomes (reached.found member)
  have planned := becomes.plan_eq
  exact ⟨draft, plain, congrArg Campaign.recurrence planned, congrArg Campaign.window planned⟩

/-- If no campaign that repeats is scheduled by an operator, every campaign that is scheduled runs
once. -/
theorem isOneTime_of_scheduled {campaign : Campaign α}
    (once : ∀ campaign, schedulable campaign → campaign.isAutomated = false)
    (member : campaign ∈ world.store.campaigns) (scheduled : campaign.status = .scheduled) :
    campaign.isOneTime = true := by
  have waits : campaign.isAutomated = false :=
    reached.holds (reached.found member) (fun _ _ _ _ => by rintro ⟨⟩) (Campaign.Step.once once)
      scheduled
  obtain ⟨draft, plain, recurrence, _⟩ := reached.submitted member
  rcases plain.recurrence with once | again
  · rw [Campaign.isOneTime, recurrence, once]
    rfl
  · rw [Campaign.isAutomated, recurrence, again] at waits
    cases waits

/-- A campaign that is due is found, wherever there is a wall clock. -/
theorem finds_due {engine : Engine σ α} {now : Moment} {campaign : Campaign α}
    (wall : (engine.settings.zone.wall? now).isSome = true)
    (member : campaign ∈ world.store.campaigns) (isDue : Lifecycle.isDue now campaign = true) :
    Scheduler.Finds engine now world campaign := by
  left
  rw [Scheduler.due, ends_bind, Lifecycle.due, ends_query reached.created]
  dsimp only
  rw [ends_pure?]
  have tells : ∀ other ∈ world.store.campaigns,
      ∃ isOpen, Scheduler.isOpen engine.settings.zone now other = .ok isOpen := by
    intro other member
    obtain ⟨draft, plain, _, window⟩ := reached.submitted member
    unfold Scheduler.isOpen
    split
    · exact RunWindow.isOpenAt_ok (window ▸ plain.window) wall
    · exact ⟨true, rfl⟩
  have among : ∀ other, other ∈ (world.store.campaigns.filter (Lifecycle.isDue now)).filter
        Campaign.isOneTime ++ (world.store.campaigns.filter (Lifecycle.isDue now)).filter
        Campaign.isAutomated → other ∈ world.store.campaigns := by
    intro other member
    simp only [List.mem_append, List.mem_filter] at member
    exact member.elim (fun left => left.1.1) fun right => right.1.1
  obtain ⟨rest, opens, remains⟩ := Scheduler.openOnes_ok fun other member =>
    tells other (among other member)
  refine ⟨rfl, rest, opens, remains campaign ?_⟩
  obtain ⟨draft, plain, recurrence, _⟩ := reached.submitted member
  have kind : campaign.isOneTime = true ∨ campaign.isAutomated = true := by
    rcases plain.recurrence with once | again
    · exact .inl (by rw [Campaign.isOneTime, recurrence, once]; rfl)
    · exact .inr (by rw [Campaign.isAutomated, recurrence, again]; rfl)
  simpa only [List.mem_append, List.mem_filter, member, isDue, true_and] using kind

/-- A campaign whose end date has come is found. -/
theorem finds_ended {engine : Engine σ α} {now : Moment} {campaign : Campaign α}
    (fits : ∀ campaign ∈ world.store.campaigns, Cell.fits campaign.id = true)
    (member : campaign ∈ world.store.campaigns) (active : campaign.status = .active)
    (ended : campaign.hasEnded now = true) : Scheduler.Finds engine now world campaign := by
  right
  rw [Scheduler.expireEnded, ends_bind, Lifecycle.ended, ends_query reached.created]
  dsimp only
  refine Scheduler.expireAll_completes (fun other member => fits other (List.mem_filter.mp member).1)
    reached.created (.inr ⟨?_, campaign, List.mem_filter.mpr ⟨member, ?_⟩, rfl⟩)
  · rw [World.status?, reached.found member, Option.map_some, active]
  · rw [(reached.isCoherent member).active active, active, ended]
    rfl

end Reached

namespace Lifecycle

/-- The time of a campaign without one has come. -/
theorem hasCome_of_le {time? : Option Moment} {now : Moment}
    (late : time?.getD ⟨0, by decide⟩ ≤ now) :
    time?.all (fun time => decide (time ≤ now)) = true := by
  cases time? with
  | none => rfl
  | some time => exact decide_eq_true late

omit [Amount α] in
theorem isDue_of_scheduled {campaign : Campaign α} {now : Moment}
    (scheduled : campaign.status = .scheduled) (once : campaign.isOneTime = true)
    (late : campaign.scheduledAt.getD ⟨0, by decide⟩ ≤ now) : isDue now campaign = true := by
  unfold isDue
  dsimp only
  rw [once, scheduled, hasCome_of_le late]
  rfl

omit [Amount α] in
theorem isDue_of_active {campaign : Campaign α} {now : Moment} (active : campaign.status = .active)
    (again : campaign.isAutomated = true) (goesOn : campaign.hasEnded now = false)
    (late : campaign.nextRunAt.getD ⟨0, by decide⟩ ≤ now) : isDue now campaign = true := by
  unfold isDue
  dsimp only
  rw [again, active, hasCome_of_le late, goesOn]
  exact Bool.or_true _

end Lifecycle

/-- Operators' actions succeed on the campaigns that they are for, with two exceptions: what is
scheduled need not be a campaign that runs once, and a draft that repeats can be resumed. As long as
no campaign that repeats is scheduled, every campaign that is scheduled runs once and every active
one repeats, and the scheduler finds each of them at every time that is late enough: it runs the
campaign if its run window is open, or completes it because its end date has come. -/
theorem waiting_campaigns_found :
    (∀ (world : World σ α) id,
      (∀ time, Ends (Operation.operate (.schedule id time)).run world fun result _ =>
        result = .ok true → ∃ old, world.store.campaign? id = some old ∧ old.status = .draft) ∧
      (∀ zone, Ends (Operation.operate (.activate zone id)).run world fun result _ =>
        result = .ok true → ∃ old, world.store.campaign? id = some old ∧
          old.isAutomated = true ∧ (old.status = .draft ∨ old.status = .paused)) ∧
      ∀ zone, Ends (Operation.operate (.resume zone id)).run world fun result _ =>
        result = .ok true → ∃ old, world.store.campaign? id = some old ∧
          (old.status = .paused ∨ old.isAutomated = true ∧ old.status = .draft)) ∧
    ∀ world : World σ α, Reached (fun campaign => campaign.isAutomated = false) world →
      (∀ campaign ∈ world.store.campaigns, Cell.fits campaign.id = true) →
        ∀ campaign ∈ world.store.campaigns,
          (campaign.status = .scheduled → campaign.isOneTime = true) ∧
          (campaign.status = .active → campaign.isAutomated = true) ∧
          (campaign.status = .scheduled ∨ campaign.status = .active →
            ∃ time, ∀ now, time ≤ now → ∀ engine : Engine σ α,
              (engine.settings.zone.wall? now).isSome = true →
                Scheduler.Finds engine now world campaign) := by
  refine ⟨fun world id => ⟨fun time => ?_, fun zone => ?_, fun zone => ?_⟩,
    fun world reached fits campaign member => ?_⟩
  · refine (Operation.changes_of_succeeds rfl).mono fun result _ succeeds same => ?_
    obtain ⟨old, new, found, changes⟩ := succeeds same
    cases changes with
    | scheduled draft => exact ⟨old, found, draft⟩
  · refine (Operation.changes_of_succeeds rfl).mono fun result _ succeeds same => ?_
    obtain ⟨old, new, found, changes⟩ := succeeds same
    cases changes with
    | activated automated waits => exact ⟨old, found, automated, waits⟩
  · refine (Operation.changes_of_succeeds rfl).mono fun result _ succeeds same => ?_
    obtain ⟨old, new, found, changes⟩ := succeeds same
    cases changes with
    | reactivated automated waits =>
      exact ⟨old, found, waits.elim (fun draft => .inr ⟨automated, draft⟩) .inl⟩
    | resumed once waits => exact ⟨old, found, .inl waits⟩
  · have once := reached.isOneTime_of_scheduled (fun _ => id) member
    have again := (reached.isCoherent member).active
    refine ⟨once, again, fun waits => ?_⟩
    rcases waits with scheduled | active
    · refine ⟨campaign.scheduledAt.getD ⟨0, by decide⟩, fun now late engine wall => ?_⟩
      exact reached.finds_due wall member
        (Lifecycle.isDue_of_scheduled scheduled (once scheduled) late)
    · refine ⟨campaign.nextRunAt.getD ⟨0, by decide⟩, fun now late engine wall => ?_⟩
      cases ended : campaign.hasEnded now with
      | true => exact reached.finds_ended fits member active ended
      | false =>
        exact reached.finds_due wall member
          (Lifecycle.isDue_of_active active (again active) ended late)

namespace Sample

/-- A campaign that runs once has been made, and one that repeats. -/
def made : World Unit Binary64 := world [.create "t" draft, .create "t" recurring]

/-- The first campaign is scheduled, and the second one active. -/
def waiting : World Unit Binary64 :=
  made.after [.operate (.schedule 1 none), .operate (.activate .utc 2)]

/-- The campaign that repeats is scheduled. -/
def parked : World Unit Binary64 := made.after [.operate (.schedule 2 none)]

/-- Two campaigns may be made, whichever may be scheduled. -/
theorem made_unfolds (schedulable : Campaign Binary64 → Prop) :
    Unfolds schedulable (fun _ => True) (World.opened dawn ()) made :=
  ((Unfolds.rest _).make "t" draft_isPlain).make "t" recurring_isPlain

theorem waiting_reached : Reached (fun campaign => campaign.isAutomated = false) waiting := by
  refine ⟨_, _, ((made_unfolds _).act (.schedule 1 none) ⟨fun _ _ same => (by cases same), ?_⟩).act
    (.activate .utc 2) ⟨fun _ _ same => (by cases same), fun _ _ _ _ => trivial⟩⟩
  intro id old about found
  cases about
  have once : (made.store.campaign? 1).all (·.isAutomated == false) = true := by decide +kernel
  rw [found] at once
  exact eq_of_beq once

end Sample

/-- A campaign that repeats can be scheduled, and as a draft it can be resumed. Once it is
scheduled, it is never due, and never completed because its end date has come. -/
theorem parked_campaign_unfound :
    Reached (fun _ => True) Sample.parked ∧
    (∃ old, Sample.made.store.campaign? 2 = some old ∧ old.isOneTime = false ∧
      old.status = .draft) ∧
    (Ends (Operation.operate (.schedule 2 none)).run Sample.made fun result _ =>
      result.toOption = some true) ∧
    (Ends (Operation.operate (.resume .utc 2)).run Sample.made fun result _ =>
      result.toOption = some true) ∧
    ∃ campaign ∈ Sample.parked.store.campaigns, campaign.status = .scheduled ∧
      campaign.isOneTime = false ∧ ∀ now : Moment,
        (Ends (Lifecycle.due now) Sample.parked fun result _ =>
          ∃ campaigns, result = .ok campaigns ∧ campaign ∉ campaigns) ∧
        Ends (Lifecycle.ended now) Sample.parked fun result _ =>
          ∃ campaigns, result = .ok campaigns ∧ campaign ∉ campaigns := by
  have made : (Sample.made.store.campaign? 2).any (fun campaign =>
      campaign.isOneTime == false && campaign.status == .draft) = true := by
    decide +kernel
  have parked : Sample.parked.store.campaigns.any (fun campaign =>
      campaign.status == .scheduled && campaign.isOneTime == false) = true := by decide +kernel
  have reached : Reached (fun _ => True) Sample.parked :=
    ⟨_, _, (Sample.made_unfolds _).act (.schedule 2 none) (OperatorAction.isProper _ _)⟩
  have schedules : ((Operation.operate (.schedule 2 none)).run.run Sample.made).1.toOption =
      some true := by decide +kernel
  have resumes : ((Operation.operate (.resume .utc 2)).run.run Sample.made).1.toOption =
      some true := by decide +kernel
  refine ⟨reached, ?_, schedules, resumes, ?_⟩
  · obtain ⟨old, found, holds⟩ := (Option.any_eq_true _ _).mp made
    rw [Bool.and_eq_true, beq_iff_eq, beq_iff_eq] at holds
    exact ⟨old, found, holds⟩
  · obtain ⟨campaign, member, holds⟩ := List.any_eq_true.mp parked
    rw [Bool.and_eq_true, beq_iff_eq, beq_iff_eq] at holds
    obtain ⟨scheduled, again⟩ := holds
    refine ⟨campaign, member, scheduled, again, fun now => ⟨?_, ?_⟩⟩
    · rw [Lifecycle.due, ends_query reached.created]
      refine ⟨_, rfl, ?_⟩
      simp [Lifecycle.isDue, scheduled, again]
    · rw [Lifecycle.ended, ends_query reached.created]
      refine ⟨_, rfl, ?_⟩
      simp [scheduled]

/-- A campaign that is scheduled and one that is active are found at every time that is late
enough. -/
theorem sample_waiting_found :
    (∃ old, Sample.made.store.campaign? 1 = some old ∧ old.status = .draft) ∧
    Sample.waiting.store.campaigns.map (·.status) = [.scheduled, .active] ∧
    ∀ campaign ∈ Sample.waiting.store.campaigns, ∃ time, ∀ now, time ≤ now →
      Scheduler.Finds (Sample.engine : OperatedEngine Unit Binary64).toEngine now Sample.waiting
        campaign := by
  have waiting := waiting_campaigns_found (σ := Unit) (α := Binary64)
  have schedules : ((Operation.operate (.schedule 1 none)).run.run Sample.made).1.toOption =
      some true := by decide +kernel
  have statuses : Sample.waiting.store.campaigns.map (·.status) = [.scheduled, .active] := by
    decide +kernel
  have fits : Sample.waiting.store.campaigns.all (fun campaign => Cell.fits campaign.id) = true := by
    decide +kernel
  refine ⟨?_, statuses, fun campaign member => ?_⟩
  · refine (waiting.1 Sample.made 1).1 none ?_
    cases ends : ((Operation.operate (.schedule 1 none)).run.run Sample.made).1 with
    | error failure =>
      rw [ends] at schedules
      cases schedules
    | ok succeeds =>
      rw [ends] at schedules
      exact ends.trans (congrArg Except.ok (Option.some.inj schedules))
  · have waits : campaign.status = .scheduled ∨ campaign.status = .active := by
      have among := List.mem_map_of_mem (f := (·.status)) member
      simpa [statuses] using among
    obtain ⟨time, finds⟩ := (waiting.2 Sample.waiting Sample.waiting_reached
      (fun _ => List.all_eq_true.mp fits _) campaign member).2.2 waits
    refine ⟨time, fun now late => finds now late _ ?_⟩
    change (now.addMicros? 0).isSome = true
    rw [Moment.addMicros?, Moment.ofMicros?, Int.add_zero,
      dif_pos ⟨Int.natCast_nonneg _, Int.ofNat_lt.mpr now.micros_lt⟩]
    rfl

end Herald
