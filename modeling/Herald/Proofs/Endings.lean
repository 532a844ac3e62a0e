import Herald.Proofs.Charges
import Herald.Proofs.Stages
import Herald.Proofs.Views

/-! # Passes that end alike

What follows the walk of a pass depends on its progress alone. Two passes that have stopped for the
same reason, and whose tallies can both be added up, therefore move their campaign on in the same
way and are closed in the same way, whatever else they have counted.
-/

namespace Herald.Pass

variable {σ τ α : Type} [Amount α] {view : Store α → Store α} {outline : Campaign α → Campaign α}
  {R : World σ α → World τ α → Prop} {engine : Engine σ α} {other : Engine τ α}

/-- Two engines of which passes end alike from related worlds: the view shows the ends of passes,
and neither journal lines nor what surrounds the engines parts the worlds. -/
structure EndsAlike (view : Store α → Store α) (outline : Campaign α → Campaign α)
    (R : World σ α → World τ α → Prop) (engine : Engine σ α) (other : Engine τ α) : Prop
    extends Shows view outline R where
  left : ∀ leaving now stamp campaign,
    outline { left leaving now campaign with status := leaving.status, updatedAt := stamp } =
      { left leaving now (outline campaign) with status := leaving.status, updatedAt := stamp }
  failed : ∀ reason now stamp campaign,
    outline { campaign with
      status := .failed, failureReason := reason, completedAt := some now, updatedAt := stamp } =
      { outline campaign with
        status := .failed, failureReason := reason, completedAt := some now, updatedAt := stamp }
  settings_eq : other.settings = engine.settings
  beforeFinish : Alike R engine.beforeFinish.run other.beforeFinish.run
  journal : ∀ line line', Alike R (Run.record line : Run σ α Unit).run (Run.record line').run

/-- Two tallies are added up alike from certain worlds. -/
def AppliesAlike (R : World σ α → World τ α → Prop) (id : Int) (tally tally' : Tally)
    (world : World σ α) (world' : World τ α) : Prop :=
  ∀ count, Leads (Lifecycle.apply id tally count).run world fun result after =>
    Leads (Lifecycle.apply id tally' count).run world' fun result' after' =>
      ∃ applied, result = .ok applied ∧ result' = .ok applied ∧
        (count.isSome = true → applied = true) ∧ R after after'

/-- Two tallies change sums alike, as far as the outline of a campaign goes. -/
def SumAlike (outline : Campaign α → Campaign α) (id : Int) (tally tally' : Tally) : Prop :=
  ∀ {count now before after before' after'}, Campaign.Sums id tally count now before after →
    Campaign.Sums id tally' count now before' after' → outline before' = outline before →
      outline after' = outline after

theorem SumAlike.map_eq {id : Int} {tally tally' : Tally} (alike : SumAlike outline id tally tally')
    {count : Option Cell} {now : Moment} {before after before' after' : List (Campaign α)}
    (sums : List.Forall₂ (Campaign.Sums id tally count now) before after)
    (sums' : List.Forall₂ (Campaign.Sums id tally' count now) before' after')
    (same : before'.map outline = before.map outline) : after'.map outline = after.map outline := by
  induction sums generalizing before' after' with
  | nil =>
    cases List.map_eq_nil_iff.mp same
    cases sums'
    rfl
  | cons head _ ih =>
    cases sums' with
    | nil => cases same
    | cons head' rest' =>
      rw [List.map_cons, List.map_cons, List.cons.injEq] at same
      rw [List.map_cons, List.map_cons, alike head head' same.1, ih rest' same.2]

/-- Tallies that can be added to what is stored, and that are empty alike, are added up alike. -/
theorem AppliesAlike.of_sums (shows : Shows view outline R) {id : Int}
    {tally tally' : Tally} (alike : SumAlike outline id tally tally')
    (isEmpty_eq : tally'.isEmpty = tally.isEmpty) {world : World σ α} {world' : World τ α}
    (related : R world world') (created : world.store.created = true) (fits : Cell.fits id = true)
    (adds : ∀ campaign ∈ world.store.campaigns, campaign.id = id →
      (∃ sms, tally.sms.addTo campaign.sms = .ok sms) ∧
        ∃ email, tally.email.addTo campaign.email = .ok email)
    (adds' : ∀ campaign ∈ world'.store.campaigns, campaign.id = id →
      (∃ sms, tally'.sms.addTo campaign.sms = .ok sms) ∧
        ∃ email, tally'.email.addTo campaign.email = .ok email) :
    AppliesAlike R id tally tally' world world' := by
  intro count
  have created' := (shows.created_eq related).trans created
  by_cases nothing : (tally.isEmpty && count.isNone) = true
  · rw [Lifecycle.apply, Lifecycle.apply, isEmpty_eq, if_pos nothing, if_pos nothing]
    have none : count = none := Option.isNone_iff_eq_none.mp (Bool.and_eq_true _ _ ▸ nothing).2
    exact ⟨false, rfl, rfl, by simp [none], related⟩
  refine (Leads.and (Lifecycle.apply_succeeds_of created fits adds count)
    (Lifecycle.apply_ends id tally count world)).mono ?_
  rintro _ after ⟨⟨applied, rfl, -⟩, wrote⟩
  refine (Leads.and (Lifecycle.apply_succeeds_of created' fits adds' count)
    (Lifecycle.apply_ends id tally' count world')).mono ?_
  rintro _ after' ⟨⟨applied', rfl, -⟩, wrote'⟩
  dsimp only at wrote wrote'
  cases applied with
  | false => exact absurd (by simp [wrote.2.1, wrote.2.2]) nothing
  | true =>
    cases applied' with
    | false => exact absurd (by simp [← isEmpty_eq, wrote'.2.1, wrote'.2.2]) nothing
    | true =>
      obtain ⟨campaigns, rfl, sums⟩ := wrote
      obtain ⟨campaigns', rfl, sums'⟩ := wrote'
      rw [shows.now_eq related] at sums'
      have view_eq := shows.view_eq related
      have same : world'.store.campaigns.map outline = world.store.campaigns.map outline := by
        rw [← shows.campaigns_eq, view_eq, shows.campaigns_eq]
      refine ⟨true, rfl, rfl, fun _ => rfl, shows.put related ?_ rfl rfl⟩
      refine (shows.campaigns world'.store campaigns').trans
        (Eq.trans ?_ (shows.campaigns world.store campaigns).symm)
      rw [view_eq, alike.map_eq sums sums' same]

/-- What has not been added up when a pass fails is added up then. -/
theorem close_unapplied_eq (campaign : Campaign α) (isTest : Bool) (progress : Progress)
    (count : Cell) (failure : Failure) :
    (close campaign isTest ⟨progress, count, false⟩ (.error failure) : Run σ α PassResult) = (do
      let _ ← Lifecycle.apply campaign.id progress.tally (if count.isZero then none else some count)
      close campaign isTest ⟨progress, count, true⟩ (.error failure)) := by
  simp only [close, fail, Bool.not_false, Bool.not_true, Bool.false_eq_true, ↓reduceIte, bind_assoc]
  rfl

namespace EndsAlike

variable (alike : EndsAlike view outline R engine other) {campaign : Campaign α}

include alike

omit [Amount α] in
/-- Both passes move their campaign on in the same way. -/
theorem finish (campaign : Campaign α) (stopped : Option Stopped) :
    Alike R (finish engine campaign stopped).run (finish other campaign stopped).run := by
  refine alike_run_bind alike.clock fun now => ?_
  rw [alike.settings_eq]
  split
  · exact alike_run_bind (alike.status? campaign.id) fun _ => alike_run_pure
  · refine alike_run_bind alike_pure? fun leaving => alike_run_bind alike.beforeFinish fun _ =>
      alike_run_bind (alike.transition campaign.id _
        (alike.left leaving now)) fun left => ?_
    split
    · exact alike_run_pure
    · exact alike_run_bind (alike.status? campaign.id) fun _ => alike_run_pure

omit [Amount α] in
/-- Both passes write a line into the journal. -/
theorem journals {told told' : PassResult} (within : told.tally.IsWithin)
    (within' : told'.tally.IsWithin) :
    Alike R (Pass.journal campaign told : Run σ α Unit).run
      (Pass.journal campaign told' : Run τ α Unit).run := by
  obtain ⟨line, writes⟩ := told.journalLine_ok within campaign.tenant
  obtain ⟨line', writes'⟩ := told'.journalLine_ok within' campaign.tenant
  rw [Pass.journal, Pass.journal, writes, writes']
  exact alike.journal line line'

variable {progress progress' : Progress} (stopped : progress'.stopped = progress.stopped)
  (within : progress.tally.IsWithin) (within' : progress'.tally.IsWithin)
  {V : PassResult → PassResult → Prop}

include within within'

/-- Both passes are closed in the same way when they have failed. -/
theorem close_failed (isTest isTest' : Bool) (count : Cell) (failure : Failure) :
    Abreast R (BothEnd V) (close campaign isTest ⟨progress, count, true⟩ (.error failure)).run
      (close campaign isTest' ⟨progress', count, true⟩ (.error failure)).run := by
  have fails : Alike R
      (fail campaign isTest ⟨progress, count, true⟩ failure : Run σ α Unit).run
      (fail campaign isTest' ⟨progress', count, true⟩ failure : Run τ α Unit).run := by
    rw [fail, fail, if_neg (by simp), if_neg (by simp)]
    refine alike_run_bind (alike_run_bind alike.clock fun now =>
      alike.transition campaign.id _ (alike.failed _ now)) fun failed =>
        alike_run_bind (alike.status? campaign.id) fun status =>
          alike.journals ?_ ?_
    · exact within
    · exact within'
  exact fails.abreast_run_bind fun _ => abreast_throw

/-- Both passes are closed in the same way when they have failed before their tallies have been
added up. -/
theorem close_unapplied {world : World σ α} {world' : World τ α} (isTest isTest' : Bool)
    (count : Cell) (failure : Failure)
    (applies : AppliesAlike R campaign.id progress.tally progress'.tally world world') :
    Ends (close campaign isTest ⟨progress, count, false⟩ (.error failure)) world fun told after =>
      Ends (close campaign isTest' ⟨progress', count, false⟩ (.error failure)) world'
        fun told' after' => BothEnd V told told' ∧ R after after' := by
  unfold Ends
  rw [close_unapplied_eq, close_unapplied_eq, ExceptT.run_bind, ExceptT.run_bind]
  refine abreast_bind_at (V := fun result result' => ∃ applied, result = .ok applied ∧
    result' = .ok applied) ?_ ?_
  · refine Leads.mono (applies _) fun result middle same => Leads.mono same ?_
    rintro result' middle' ⟨applied, rfl, rfl, -, related⟩
    exact ⟨⟨applied, rfl, rfl⟩, related⟩
  · rintro _ _ ⟨applied, rfl, rfl⟩
    exact alike.close_failed within within' isTest isTest' count failure

include stopped

/-- Both passes are closed in the same way once their tallies have been added up. -/
theorem close {isTest isTest' : Bool} {count : Cell}
    (tells : ∀ status reason nextRunAt,
      V (result campaign isTest ⟨progress, count, true⟩ status reason nextRunAt)
        (result campaign isTest' ⟨progress', count, true⟩ status reason nextRunAt))
    (ended : Except Failure (Option CampaignStatus × Option Moment)) :
    Abreast R (BothEnd V) (close campaign isTest ⟨progress, count, true⟩ ended).run
      (close campaign isTest' ⟨progress', count, true⟩ ended).run := by
  rcases ended with failure | ⟨status, nextRunAt⟩
  · exact alike.close_failed within within' isTest isTest' count failure
  · rw [Pass.close, Pass.close]
    dsimp only
    rw [stopped]
    refine (alike.journals ?_ ?_).abreast_run_bind fun _ => abreast_run_pure (tells _ _ _)
    · exact within
    · exact within'

/-- What follows the walks of both passes is the same. -/
theorem conclude {setting : Setting α} {isTest : Bool} {world : World σ α} {world' : World τ α}
    (failure? : Option Failure)
    (applies : AppliesAlike R setting.campaign.id progress.tally progress'.tally world world')
    (tells : ∀ status reason nextRunAt,
      V (result setting.campaign setting.isTest ⟨progress, setting.count, true⟩ status reason
          nextRunAt)
        (result setting.campaign isTest ⟨progress', setting.count, true⟩ status reason nextRunAt)) :
    Ends (setting.conclude engine (progress, failure?)) world fun told after =>
      Ends ({ setting with isTest }.conclude other (progress', failure?)) world'
        fun told' after' => BothEnd V told told' ∧ R after after' := by
  cases failure? with
  | some failure =>
    exact alike.close_unapplied within within' setting.isTest isTest setting.count failure applies
  | none =>
    unfold Ends
    rw [Setting.conclude, Setting.conclude, ExceptT.run_bind, ExceptT.run_bind]
    refine abreast_bind_at (V := fun result result' => result = .ok (.ok true) ∧
      result' = .ok (.ok true)) ?_ ?_
    · change Leads (Lifecycle.apply setting.campaign.id progress.tally (some setting.count)).run world
        fun result middle =>
          Leads (Lifecycle.apply setting.campaign.id progress'.tally (some setting.count)).run world'
            fun result' middle' => (Except.ok result = .ok (.ok true) ∧
              Except.ok result' = .ok (.ok true)) ∧ R middle middle'
      refine Leads.mono (applies (some setting.count)) fun result middle same => Leads.mono same ?_
      rintro result' middle' ⟨applied, rfl, rfl, all, related⟩
      rw [all rfl]
      exact ⟨⟨rfl, rfl⟩, related⟩
    · rintro _ _ ⟨rfl, rfl⟩
      dsimp only
      rw [stopped]
      exact (alike_attempt (alike.finish setting.campaign progress.stopped)).abreast_run_bind
        fun ended => alike.close stopped within within' tells ended

end EndsAlike

end Herald.Pass
