import Herald.Proofs.Finality

/-! # What campaigns tell of their next run

A campaign that tells of a next run repeats and is active or sends, and a campaign that tells why it
is paused is paused, or was so when it was cancelled. Every change of a campaign keeps this up,
apart from the end of a pass that fails: it leaves the time of the next run behind.
-/

namespace Herald

variable {σ α : Type} [Amount α] {schedulable : Campaign α → Prop}

/-! ## One campaign -/

namespace Campaign

variable {old new : Campaign α}

/-- What a campaign tells of its next run and of its pause fits where it stands. -/
structure IsCoherent (campaign : Campaign α) : Prop where
  active : campaign.status = .active → campaign.isAutomated = true
  nextRun : campaign.nextRunAt ≠ none → campaign.isAutomated = true ∧
    (campaign.status = .active ∨ campaign.status = .sending ∨ campaign.status = .failed)
  reason : campaign.pauseReason ≠ none →
    campaign.status = .paused ∨ campaign.status = .cancelled

namespace IsCoherent

omit [Amount α] in
/-- No next run is told of a campaign that neither is active nor sends nor has failed. -/
theorem nextRunAt_eq (coherent : old.IsCoherent)
    (waits : old.status ≠ .active ∧ old.status ≠ .sending ∧ old.status ≠ .failed) :
    old.nextRunAt = none := by
  by_contra told
  exact (coherent.nextRun told).2.elim waits.1 fun rest => rest.elim waits.2.1 waits.2.2

omit [Amount α] in
/-- No reason is told of a campaign that neither is paused nor has been cancelled. -/
theorem pauseReason_eq (coherent : old.IsCoherent)
    (goesOn : old.status ≠ .paused ∧ old.status ≠ .cancelled) : old.pauseReason = none := by
  by_contra told
  exact (coherent.reason told).elim goesOn.1 goesOn.2

end IsCoherent

omit [Amount α] in
/-- A campaign of which neither a next run nor a reason is told is coherent unless it is active. -/
theorem isCoherent_of_none (waits : new.status ≠ .active) (nextRun : new.nextRunAt = none)
    (reason : new.pauseReason = none) : new.IsCoherent :=
  ⟨fun active => absurd active waits, fun told => absurd nextRun told,
    fun told => absurd reason told⟩

/-- No change of a campaign makes it incoherent. -/
theorem Step.isCoherent (step : Step schedulable old new) (coherent : old.IsCoherent) :
    new.IsCoherent := by
  cases step with
  | summed => exact ⟨coherent.active, coherent.nextRun, coherent.reason⟩
  | operated operated =>
    obtain ⟨operation, suits, changes⟩ := operated
    cases changes with
    | scheduled draft =>
      exact isCoherent_of_none (by rintro ⟨⟩) (coherent.nextRunAt_eq (by simp [draft]))
        (coherent.pauseReason_eq (by simp [draft]))
    | activated automated waits =>
      exact ⟨fun _ => automated, fun _ => ⟨automated, .inl rfl⟩, fun told => absurd rfl told⟩
    | paused waits => exact ⟨by rintro ⟨⟩, fun told => absurd rfl told, fun _ => .inl rfl⟩
    | reactivated automated waits =>
      exact ⟨fun _ => automated, fun _ => ⟨automated, .inl rfl⟩, fun told => absurd rfl told⟩
    | resumed once waits =>
      exact isCoherent_of_none (by rintro ⟨⟩) (coherent.nextRunAt_eq (by simp [waits])) rfl
    | cancelled => exact ⟨by rintro ⟨⟩, fun told => absurd rfl told, fun _ => .inr rfl⟩
    | begun =>
      exact ⟨by rintro ⟨⟩, fun told => ⟨(coherent.nextRun told).1, .inr (.inl rfl)⟩,
        fun told => absurd rfl told⟩
    | @left _ exit reason completedAt nextRunAt _ sending =>
      have fits := suits.fits
      have unpaused : old.pauseReason = none := coherent.pauseReason_eq (by simp [sending])
      refine ⟨fits.automated, fun told => ?_, fun told => .inl (fits.pauseReason ?_)⟩
      · have active := fits.nextRunAt (Option.isSome_iff_ne_none.mpr told)
        exact ⟨fits.automated active, .inl active⟩
      · have told : reason.or old.pauseReason ≠ none := told
        rwa [unpaused, Option.or_none, ← Option.isSome_iff_ne_none] at told
    | failed sending =>
      refine ⟨by rintro ⟨⟩, fun told => ⟨(coherent.nextRun told).1, .inr (.inr rfl)⟩,
        fun told => absurd (coherent.pauseReason_eq (by simp [sending])) told⟩
    | expired active =>
      exact isCoherent_of_none (by rintro ⟨⟩) rfl (coherent.pauseReason_eq (by simp [active]))

end Campaign

namespace Reached

variable {world : World σ α} (reached : Reached schedulable world)

include reached

/-- Every campaign of a table is found by its id. -/
theorem found {campaign : Campaign α} (member : campaign ∈ world.store.campaigns) :
    world.store.campaign? campaign.id = some campaign :=
  find?_of_nodup ((List.Pairwise.of_cons reached.ascending).imp fun less => Int.ne_of_lt less) member

theorem isCoherent {campaign : Campaign α} (member : campaign ∈ world.store.campaigns) :
    campaign.IsCoherent :=
  reached.holds (reached.found member)
    (fun _ _ _ _ => Campaign.isCoherent_of_none (by rintro ⟨⟩) rfl rfl) Campaign.Step.isCoherent

end Reached

/-- The next run and the reason of a pause are told of the campaigns that they are about: whatever
happens, a campaign with a next run repeats and is active or sends, unless its last pass has failed,
and a campaign with a reason is paused, or has been cancelled. -/
theorem told_where_due (schedulable : Campaign α → Prop) (world : World σ α)
    (reached : Reached schedulable world) : ∀ campaign ∈ world.store.campaigns,
      (campaign.nextRunAt ≠ none → campaign.isAutomated = true ∧
        (campaign.status = .active ∨ campaign.status = .sending ∨ campaign.status = .failed)) ∧
      (campaign.pauseReason ≠ none →
        campaign.status = .paused ∨ campaign.status = .cancelled) :=
  fun _ member => ⟨(reached.isCoherent member).nextRun, (reached.isCoherent member).reason⟩

namespace Sample

/-- A campaign that repeats. -/
def recurring : Draft := { draft with recurrence := .automated }

/-- An engine whose providers break. -/
def breaking : OperatedEngine Unit α :=
  { (engine : OperatedEngine Unit α) with
    exchange := fun _ => throw (.crash "boom")
    exchange_operated := fun _ _ => .refl }

/-- The first pass of a campaign that repeats fails. -/
def broken : List (Event Unit α) :=
  [.create "t" recurring, .upsert ⟨"t", .customer, []⟩ [] .null [("phone", .text "123")],
    .credit "t" (Settings.cents 5), .operate (.activate .utc 1), .execute breaking 1]

theorem recurring_isPlain : recurring.IsPlain := ⟨.inr rfl, by rintro _ ⟨⟩, by rintro _ ⟨⟩⟩

omit [Amount α] in
theorem broken_plain : ∀ tenant draft, .create tenant draft ∈ (broken : List (Event Unit α)) →
    draft.IsPlain := by
  intro tenant draft member
  simp only [broken, List.mem_cons, Event.create.injEq, reduceCtorEq, List.not_mem_nil,
    or_false] at member
  rw [member.2]
  exact recurring_isPlain

end Sample

/-- A campaign that has failed still tells of a next run. -/
theorem failed_campaign_tells :
    let world : World Unit Binary64 := Sample.world Sample.broken
    Reached (fun _ => True) world ∧
      ∃ campaign ∈ world.store.campaigns, campaign.status = .failed ∧
        campaign.nextRunAt = some Sample.dawn := by
  intro world
  refine ⟨⟨_, _, World.after_unfolds (.rest _) _ Sample.broken_plain⟩, ?_⟩
  have tells : world.store.campaigns.any (fun campaign =>
      campaign.status == .failed && campaign.nextRunAt == some Sample.dawn) = true := by
    decide +kernel
  obtain ⟨campaign, member, holds⟩ := List.any_eq_true.mp tells
  rw [Bool.and_eq_true, beq_iff_eq, beq_iff_eq] at holds
  exact ⟨campaign, member, holds⟩

/-- A campaign that is active tells of its next run, and one that is paused of the reason. -/
theorem sample_told_where_due :
    let active : World Unit Binary64 := Sample.world (Sample.broken.take 4)
    let paused : World Unit Binary64 := active.after [.operate (.pause 1 (some "holiday"))]
    (∃ campaign ∈ active.store.campaigns, campaign.nextRunAt ≠ none ∧
      campaign.isAutomated = true ∧
      (campaign.status = .active ∨ campaign.status = .sending ∨ campaign.status = .failed)) ∧
    ∃ campaign ∈ paused.store.campaigns, campaign.pauseReason ≠ none ∧
      (campaign.status = .paused ∨ campaign.status = .cancelled) := by
  intro active paused
  have plain : ∀ tenant draft, .create tenant draft ∈ Sample.broken (α := Binary64).take 4 →
      draft.IsPlain := fun tenant draft member =>
    Sample.broken_plain tenant draft (List.mem_of_mem_take member)
  have unfolds : Unfolds (fun _ => True) (fun _ => True) (World.opened Sample.dawn ()) active :=
    World.after_unfolds (.rest _) _ plain
  have reached : Reached (fun _ => True) paused :=
    ⟨_, _, World.after_unfolds unfolds _ (by simp)⟩
  have tells : active.store.campaigns.any (·.nextRunAt.isSome) = true := by decide +kernel
  have explains : paused.store.campaigns.any (·.pauseReason.isSome) = true := by decide +kernel
  refine ⟨?_, ?_⟩
  · obtain ⟨campaign, member, told⟩ := List.any_eq_true.mp tells
    have told := Option.isSome_iff_ne_none.mp told
    exact ⟨campaign, member, told,
      (told_where_due (fun _ => True) active ⟨_, _, unfolds⟩ campaign member).1 told⟩
  · obtain ⟨campaign, member, told⟩ := List.any_eq_true.mp explains
    have told := Option.isSome_iff_ne_none.mp told
    exact ⟨campaign, member, told,
      (told_where_due (fun _ => True) paused reached campaign member).2 told⟩

end Herald
