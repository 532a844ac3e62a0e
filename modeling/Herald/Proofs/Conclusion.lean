import Herald.Proofs.Endings
import Herald.Proofs.Outcomes
import Herald.Proofs.Simulation

/-! # How simulated passes end

What follows the walk of a pass depends on its progress alone, apart from costs and deliveries. So a
simulated pass adds up the same counts, leaves its campaign where the live pass does, and tells the
same; and neither can fail on its costs, because those of the live pass are bounded and the
simulated one has none.
-/

namespace Herald

variable {σ α : Type} [Amount α]

/-! ## Sums -/

/-- A campaign to whose sums a tally has been added, as far as its outline goes. -/
def Campaign.counted (id : Int) (tally : Tally) (count : Option Cell) (now : Moment)
    (campaign : Campaign α) : Campaign α :=
  if campaign.id = id then
    { campaign with
      sms := { campaign.sms with
        sent := campaign.sms.sent.plus tally.sms.sent
        failed := campaign.sms.failed.plus tally.sms.failed }
      email := { campaign.email with
        sent := campaign.email.sent.plus tally.email.sent
        failed := campaign.email.failed.plus tally.email.failed }
      targetCount := count.getD campaign.targetCount, updatedAt := now }
  else campaign

theorem ChannelTally.outline_addTo {tally : ChannelTally} {sums added : Aggregates α}
    (adds : tally.addTo sums = .ok added) : added.outline = { sums.outline with
      sent := sums.sent.plus tally.sent, failed := sums.failed.plus tally.failed } := by
  unfold addTo at adds
  dsimp only at adds
  split at adds
  · cases adds
    rfl
  · cases adds

theorem Campaign.Sums.outline_eq {id : Int} {tally : Tally} {count : Option Cell} {now : Moment}
    {before after : Campaign α} (sums : Campaign.Sums id tally count now before after) :
    after.outline = before.outline.counted id tally count now := by
  unfold Campaign.Sums at sums
  split at sums
  · rename_i same
    obtain ⟨sms, email, smsAdds, emailAdds, rfl⟩ := sums
    rw [Campaign.counted, if_pos (show before.outline.id = id from same)]
    simp only [Campaign.outline, ChannelTally.outline_addTo smsAdds,
      ChannelTally.outline_addTo emailAdds]
    rfl
  · rename_i differs
    rw [Campaign.counted, if_neg (show ¬ before.outline.id = id from differs), sums]

namespace Tally.Rehearses

variable {live mock : Tally} (rehearses : live.Rehearses mock)

include rehearses

theorem isEmpty_eq : mock.isEmpty = live.isEmpty := by
  rw [isEmpty, isEmpty, show mock.sms.isEmpty = _ from (rehearses .sms).isEmpty_eq,
    show mock.email.isEmpty = _ from (rehearses .email).isEmpty_eq]
  rfl

omit [Amount α] in
/-- A simulated pass adds the same counts. -/
theorem counted_eq (id : Int) (count : Option Cell) (now : Moment) :
    (Campaign.counted id mock count now : Campaign α → Campaign α) =
      Campaign.counted id live count now := by
  have sms := rehearses .sms
  have email := rehearses .email
  funext campaign
  simp only [Campaign.counted, show mock.sms.sent = live.sms.sent from sms.sent_eq,
    show mock.sms.failed = live.sms.failed from sms.failed_eq,
    show mock.email.sent = live.email.sent from email.sent_eq,
    show mock.email.failed = live.email.failed from email.failed_eq]

/-- What costs nothing is bounded. -/
theorem isWithin : mock.IsWithin := fun channel => by
  rw [(rehearses channel).cost_eq]
  exact Decimal.isWithin_zero _

/-- What costs nothing can be added to any sums. -/
theorem exists_addTo (channel : Channel) (sums : Aggregates α) :
    ∃ added, (mock.channel channel).addTo sums = .ok added := by
  have free : (mock.channel channel).cost.isZero = true := by
    rw [(rehearses channel).cost_eq]
    rfl
  rw [ChannelTally.addTo, if_pos free]
  exact ⟨_, rfl⟩

end Tally.Rehearses

namespace Pass

theorem sumAlike_outline {tally tally' : Tally} (counts : tally.Rehearses tally') (id : Int) :
    SumAlike (Campaign.outline : Campaign α → Campaign α) id tally tally' := by
  intro count now before after before' after' sums sums' same
  rw [sums.outline_eq, sums'.outline_eq, counts.counted_eq, same]

/-- A simulated pass adds up its tally as the live pass does. -/
theorem apply_rehearsed {before : Store Binary64} {live mock : World σ Binary64} {id : Int}
    {tally tally' : Tally} (counts : tally.Rehearses tally') (within : tally.IsWithin)
    (rehearses : Rehearses before live mock) (ready : live.store.Ready id)
    (fits : Cell.fits id = true) : AppliesAlike (Rehearses before) id tally tally' live mock := by
  refine .of_sums Rehearses.shows (sumAlike_outline counts id)
    counts.isEmpty_eq rehearses ready.created fits (fun campaign member same => ?_)
    fun campaign _ _ => ⟨counts.exists_addTo .sms campaign.sms,
      counts.exists_addTo .email campaign.email⟩
  obtain ⟨sms, email⟩ := ready.addable campaign member same
  exact ⟨ChannelTally.exists_addTo (within .sms) sms,
    ChannelTally.exists_addTo (within .email) email⟩

end Pass

/-! ## Where passes leave their campaigns -/

/-- An engine around which nothing happens, and which lets every campaign be moved on. -/
structure Engine.IsQuiet (engine : Engine σ α) : Prop extends engine.IsCalm where
  movesOn : ∀ world, Ends engine.beforeFinish world fun result _ => result = .ok ()

/-- What a live and a simulated pass tell about themselves. -/
structure PassResult.Rehearses (live mock : PassResult) : Prop where
  campaign_eq : mock.campaign = live.campaign
  status_eq : mock.status = live.status
  targetCount_eq : mock.targetCount = live.targetCount
  eligible_eq : mock.eligible = live.eligible
  skipped_eq : mock.skipped = live.skipped
  tally : live.tally.Rehearses mock.tally
  isLive : live.isMock = false
  isMock : mock.isMock = true
  pauseReason_eq : mock.pauseReason = live.pauseReason
  nextRunAt_eq : mock.nextRunAt = live.nextRunAt

namespace Pass

theorem endsAlike_of_quiet {before : Store α} {engine : Engine σ α} (quiet : engine.IsQuiet) :
    EndsAlike Store.outline Campaign.outline (Rehearses before) engine engine where
  toShows := Rehearses.shows
  left _ _ _ _ := rfl
  failed _ _ _ _ := rfl
  settings_eq := rfl
  beforeFinish live mock rehearses := by
    refine ⟨(quiet.movesOn mock).trans (quiet.movesOn live).symm, rehearses.of_eq ?_ ?_⟩
    · exact quiet.beforeFinish live
    · exact quiet.beforeFinish mock
  journal _ _ _ _ rehearses := ⟨rfl, rehearses.of_eq rfl rfl⟩

variable {before : Store Binary64} {live mock : World σ Binary64} {campaign : Campaign Binary64}

theorem result_rehearsed {progress progress' : Progress} (counts : progress.Rehearses progress')
    (campaign : Campaign Binary64) (count : Cell) (applied : Bool)
    (status : Option CampaignStatus) (reason : Option String) (nextRunAt : Option Moment) :
    (result campaign false ⟨progress, count, applied⟩ status reason nextRunAt).Rehearses
      (result campaign true ⟨progress', count, applied⟩ status reason nextRunAt) :=
  ⟨rfl, rfl, rfl, counts.eligible_eq, counts.skipped_eq, counts.tally, rfl, rfl, rfl, rfl⟩

/-- What follows the walk of a simulated pass is what follows that of the live pass. -/
theorem conclude_rehearsed {engine : Engine σ Binary64} (quiet : engine.IsQuiet)
    {setting : Setting Binary64} (isLive : setting.isTest = false)
    {walked walked' : Progress × Option Failure} (paces : Paces before walked.1 live walked'.1 mock)
    (same : walked'.2 = walked.2) (ready : live.store.Ready setting.campaign.id)
    (fits : Cell.fits setting.campaign.id = true) :
    Ends (setting.conclude engine walked) live fun told after =>
      Ends ({ setting with isTest := true }.conclude engine walked') mock fun told' after' =>
        BothEnd PassResult.Rehearses told told' ∧ Rehearses before after after' := by
  obtain ⟨progress, failure?⟩ := walked
  obtain ⟨progress', failure?'⟩ := walked'
  dsimp only at same paces
  subst same
  refine (endsAlike_of_quiet quiet).conclude paces.counts.stopped_eq paces.within
    paces.counts.tally.isWithin _ (apply_rehearsed paces.counts.tally paces.within paces.worlds ready fits)
    fun status reason nextRunAt => ?_
  rw [isLive]
  exact result_rehearsed paces.counts _ _ _ _ _ _

end Pass

end Herald
