import Herald.Proofs.Passing

/-! # The stages of a pass

A pass starts, walks over its audience and concludes, and it concludes in the same way whether its
walk has failed or not. `execute_iff` takes a pass apart into these stages, so what holds of a pass
is put together from what holds of each of them.
-/

namespace Herald.Pass

variable {σ α : Type} {engine : Engine σ α} {R : World σ α → World σ α → Prop}

/-- What a pass walks with. -/
structure Setting (α : Type) where
  campaign : Campaign α
  isTest : Bool
  audience : Audience
  count : Cell
  excluded : List Int
  limit : Option Int

/-- How the start of a pass ends. -/
inductive Start (α : Type)
  | refused (failure : Failure)
  | unprepared (campaign : Campaign α) (isTest : Bool) (count : Cell) (failure : Failure)
  | walks (setting : Setting α)

/-- Compile the filter of a campaign and claim it for a pass. -/
def claim (id : Int) : Run σ α (Campaign α × Predicate) := do
  let campaign ← runnable id
  let predicate ← compile campaign
  return ((← Lifecycle.begin id).getD campaign, predicate)

/-- The audience of a campaign and its size. -/
def prepare (engine : Engine σ α) (campaign : Campaign α) (predicate : Predicate) :
    Run σ α (Audience × Cell) := do
  let audience ← audienceOf campaign.tenant predicate
  return (audience, ← targetCount engine campaign audience)

/-- A pass up to its walk. -/
def start (engine : Engine σ α) (id : Int) : Steady σ α (Start α) := do
  match ← (claim id).run with
  | .error failure => return .refused failure
  | .ok (campaign, predicate) =>
    let isTest := isMock engine.settings campaign
    match ← (prepare engine campaign predicate).run with
    | .error failure => return .unprepared campaign isTest (.int 0) failure
    | .ok (audience, count) =>
      match ← (excludedAndLimit campaign count).run with
      | .error failure => return .unprepared campaign isTest count failure
      | .ok (excluded, limit) => return .walks ⟨campaign, isTest, audience, count, excluded, limit⟩

section Moves

variable [IsPreorder (World σ α) R]

theorem prepare_moves (engine : Engine σ α) (campaign : Campaign α) (predicate : Predicate) :
    Moves R (prepare engine campaign predicate).run :=
  moves_run_bind (moves_run_bind moves_clock fun _ => moves_run_pure) fun audience =>
    moves_run_bind (targetCount_moves campaign audience) fun _ => moves_run_pure

/-- A start moves the campaign into its pass and does nothing else. -/
theorem start_moves (allows : Lifecycle.Allows R) (engine : Engine σ α) (id : Int) :
    Moves R (start engine id) := by
  refine moves_bind (moves_run_bind (runnable_moves id) fun campaign =>
    moves_run_bind (compile_moves campaign) fun predicate =>
      moves_run_bind (begin_moves allows id) fun claimed => moves_run_pure) fun claimed => ?_
  rcases claimed with failure | ⟨campaign, predicate⟩
  · exact moves_pure
  refine moves_bind (prepare_moves engine campaign predicate) fun prepared => ?_
  rcases prepared with failure | ⟨audience, count⟩
  · exact moves_pure
  refine moves_bind (excludedAndLimit_moves campaign count) fun bounds => ?_
  rcases bounds with failure | ⟨excluded, limit⟩ <;> exact moves_pure

end Moves

variable [Amount α]

/-- The walk of a pass. -/
def Setting.walk (setting : Setting α) (engine : Engine σ α) :
    Steady σ α (Progress × Option Failure) :=
  setting.audience.walk engine.batchSize setting.limit
    (visit engine setting.campaign setting.isTest setting.excluded) .start

/-- The end of a pass: its line in the journal, behind the record of its failure if it has
failed. -/
def close (campaign : Campaign α) (isTest : Bool) (ledger : Ledger) :
    Except Failure (Option CampaignStatus × Option Moment) → Run σ α PassResult
  | .error failure => do
    fail campaign isTest ledger failure
    throw failure
  | .ok (status, nextRunAt) => do
    let pauseReason :=
      if ledger.progress.stopped == some .outOfBalance then some outOfBalanceReason else none
    let result := result campaign isTest ledger status pauseReason nextRunAt
    journal campaign result
    return result

/-- What follows the walk of a pass. -/
def Setting.conclude (setting : Setting α) (engine : Engine σ α) :
    Progress × Option Failure → Run σ α PassResult
  | (progress, some failure) =>
    close setting.campaign setting.isTest ⟨progress, setting.count, false⟩ (.error failure)
  | (progress, none) => do
    match ← Run.attempt
      (Lifecycle.apply setting.campaign.id progress.tally (some setting.count)) with
    | .error failure =>
      close setting.campaign setting.isTest ⟨progress, setting.count, false⟩ (.error failure)
    | .ok applied =>
      let ended ← Run.attempt (finish engine setting.campaign progress.stopped)
      close setting.campaign setting.isTest ⟨progress, setting.count, applied⟩ ended

/-- What follows the start of a pass. -/
def Start.goOn (engine : Engine σ α) : Start α → Run σ α PassResult
  | .refused failure => throw failure
  | .unprepared campaign isTest count failure =>
    close campaign isTest ⟨.start, count, false⟩ (.error failure)
  | .walks setting => do setting.conclude engine (← setting.walk engine)

/-- A pass is its start and what follows. -/
theorem execute_iff {engine : Engine σ α} {id : Int} {world : World σ α}
    {after : Except Failure PassResult → World σ α → Prop} :
    Ends (execute engine id) world after ↔
      Leads (start engine id) world fun begun middle => Ends (begun.goOn engine) middle after := by
  rw [execute, start, leads_bind, leads_run, claim, ends_bind, ends_bind]
  refine Leads.congr (leads_true _ _) fun found world _ => ?_
  cases found with
  | error failure => exact Iff.rfl
  | ok campaign =>
    dsimp only
    rw [ends_bind, ends_bind]
    refine Leads.congr (leads_true _ _) fun compiled world _ => ?_
    cases compiled with
    | error failure => exact Iff.rfl
    | ok predicate =>
      dsimp only
      rw [ends_bind, ends_bind]
      refine Leads.congr (leads_true _ _) fun claimed world _ => ?_
      cases claimed with
      | error failure => exact Iff.rfl
      | ok claimed =>
        dsimp only
        rw [ends_pure, ends_bind, ends_lift, carryOut, leads_bind, leads_bind]
        refine Leads.congr (leads_true _ _) fun prepared world _ => ?_
        rcases prepared with failure | ⟨audience, count⟩
        · exact Iff.rfl
        · dsimp only
          rw [leads_bind, leads_bind]
          refine Leads.congr (leads_true _ _) fun bounds world _ => ?_
          rcases bounds with failure | ⟨excluded, limit⟩
          · exact Iff.rfl
          · dsimp only
            rw [leads_bind, leads_pure, Start.goOn, ends_bind, ends_lift]
            refine Leads.congr (leads_true _ _) fun walked world _ => ?_
            rcases walked with ⟨progress, _ | failure⟩
            · dsimp only [Setting.conclude]
              rw [leads_bind, leads_run, ends_bind, ends_attempt]
              refine Leads.congr (leads_true _ _) fun applied world _ => ?_
              cases applied with
              | error failure => exact Iff.rfl
              | ok applied => exact Iff.rfl
            · exact Iff.rfl

/-- A pass is its start and what follows, as one action. -/
theorem execute_eq (engine : Engine σ α) (id : Int) :
    (execute engine id).run = start engine id >>= fun begun => (begun.goOn engine).run := by
  funext world
  have same : Ends (execute engine id) world fun result after => (result, after) =
      (start engine id >>= fun begun => (begun.goOn engine).run).run world := execute_iff.mpr rfl
  exact same

/-- A pass that walks is its walk and what follows. -/
theorem goOn_walks (engine : Engine σ α) (setting : Setting α) :
    ((Start.walks setting).goOn engine).run =
      setting.walk engine >>= fun walked => (setting.conclude engine walked).run := rfl

/-- A failure is recorded behind the tally that has not been added before. -/
theorem close_unapplied {campaign : Campaign α} {isTest : Bool} {progress : Progress} {count : Cell}
    {failure : Failure} {world : World σ α} {after : Except Failure PassResult → World σ α → Prop} :
    Ends (close campaign isTest ⟨progress, count, false⟩ (.error failure)) world after ↔
      Ends (Lifecycle.apply campaign.id progress.tally
          (if count.isZero then none else some count)) world fun result middle =>
        match result with
        | .error other => after (.error other) middle
        | .ok _ =>
          Ends (close campaign isTest ⟨progress, count, true⟩ (.error failure)) middle after := by
  rw [close, ends_bind, fail]
  simp only [Bool.not_false, ↓reduceIte]
  rw [ends_bind]
  refine Leads.congr (leads_true _ _) fun result middle _ => ?_
  cases result with
  | error other => exact Iff.rfl
  | ok applied =>
    simp only [close, fail, ends_bind, Bool.not_true, Bool.false_eq_true, ↓reduceIte]
    exact Iff.rfl

/-! ## What a pass tells -/

omit [Amount α] in
/-- A status with a name is told as it is. -/
theorem result_status {campaign : Campaign α} {isTest : Bool} {ledger : Ledger}
    {told : CampaignStatus} {reason : Option String} {nextRunAt : Option Moment}
    (named : told.name ≠ "") :
    (result campaign isTest ledger (some told) reason nextRunAt).status = told := by
  have keeps : (told.name != "") = true := bne_iff_ne.mpr named
  simp only [result, Option.filter, keeps, ↓reduceIte, Option.getD_some]

/-- A pass that returns has been moved on, and tells what is in its ledger. -/
theorem close_returns (campaign : Campaign α) (isTest : Bool) (ledger : Ledger)
    (ended : Except Failure (Option CampaignStatus × Option Moment)) (world : World σ α) :
    Ends (close campaign isTest ledger ended) world fun returned _ => ∀ told, returned = .ok told →
      ∃ status nextRunAt reason, ended = .ok (status, nextRunAt) ∧
        told = result campaign isTest ledger status reason nextRunAt := by
  rcases ended with failure | ⟨status, nextRunAt⟩
  · rw [close, ends_bind]
    refine (leads_true _ _).mono fun closed after _ => ?_
    cases closed <;> exact fun _ same => by cases same
  · rw [close, ends_bind]
    refine (leads_true _ _).mono fun journaled after _ => ?_
    cases journaled with
    | error failure => exact fun _ same => by cases same
    | ok value =>
      rintro told same
      cases same
      exact ⟨status, nextRunAt, _, rfl, rfl⟩

/-! ## What each stage respects -/

section Moves

variable [IsPreorder (World σ α) R]

section Parts

variable {campaign : Campaign α}
  (tally : ∀ tally count, Moves R (Lifecycle.apply campaign.id tally count : Run σ α Bool).run)
  (fails : ∀ reason, Moves R (Lifecycle.markFailed campaign.id reason : Run σ α Bool).run)
  (journals : ∀ line, Moves R (Run.record line : Run σ α Unit).run)

include tally fails journals

omit tally in
/-- The close of a pass adds its tally up only if that has not been done. -/
theorem close_moves_unless {isTest : Bool} {ledger : Ledger}
    (tally : ledger.applied = false → ∀ count,
      Moves R (Lifecycle.apply campaign.id ledger.progress.tally count : Run σ α Bool).run)
    (ended : Except Failure (Option CampaignStatus × Option Moment)) :
    Moves R (close campaign isTest ledger ended).run := by
  rcases ended with failure | ⟨status, nextRunAt⟩
  · exact moves_run_bind (fail_moves tally fails journals) fun _ => moves_throw
  · exact moves_run_bind (journal_moves journals campaign _) fun _ => moves_run_pure

/-- The close of a pass moves along whatever its parts move along. -/
theorem close_moves_of (isTest : Bool) (ledger : Ledger)
    (ended : Except Failure (Option CampaignStatus × Option Moment)) :
    Moves R (close campaign isTest ledger ended).run :=
  close_moves_unless fails journals (fun _ => tally _) ended

/-- What follows a walk moves along whatever its parts move along. -/
theorem conclude_moves_of {setting : Setting α} (own : setting.campaign = campaign)
    (finishes : ∀ stopped, Moves R (finish engine campaign stopped).run)
    (walked : Progress × Option Failure) : Moves R (setting.conclude engine walked).run := by
  subst own
  rcases walked with ⟨progress, _ | failure⟩
  · refine moves_run_bind (tally _ _) fun applied => ?_
    cases applied with
    | error failure => exact close_moves_of tally fails journals _ _ _
    | ok applied =>
      exact moves_run_bind (finishes _) fun ended => close_moves_of tally fails journals _ _ ended
  · exact close_moves_of tally fails journals _ _ _

end Parts

theorem close_moves (settles : engine.Settles R) (campaign : Campaign α) (isTest : Bool)
    (ledger : Ledger) (ended : Except Failure (Option CampaignStatus × Option Moment)) :
    Moves R (close campaign isTest ledger ended).run :=
  close_moves_of (settles.tally _) (Lifecycle.markFailed_moves settles.life _) settles.journal isTest
    ledger ended

theorem conclude_moves (settles : engine.Settles R) (setting : Setting α)
    (walked : Progress × Option Failure) : Moves R (setting.conclude engine walked).run :=
  conclude_moves_of (settles.tally _) (Lifecycle.markFailed_moves settles.life _) settles.journal rfl
    (finish_moves settles.life settles.beforeFinish setting.campaign) walked

theorem walk_moves (reaches : engine.Reaches R) (setting : Setting α) :
    Moves R (setting.walk engine) :=
  Audience.walk_moves (visit_moves reaches setting.campaign setting.isTest setting.excluded)

/-- A pass respects whatever each of its steps respects. -/
theorem execute_moves (respects : engine.Respects R) (id : Int) :
    Moves R (execute engine id).run := by
  have goOn : ∀ begun : Start α, Moves R (begun.goOn engine).run := by
    intro begun
    cases begun with
    | refused failure => exact moves_throw
    | unprepared campaign isTest count failure => exact close_moves respects.toSettles _ _ _ _
    | walks setting =>
      exact moves_run_bind (moves_lift (walk_moves respects.toReaches setting)) fun walked =>
        conclude_moves respects.toSettles setting walked
  intro world
  change Ends (execute engine id) world fun _ after => R world after
  rw [execute_iff]
  refine ((start_moves respects.life engine id).leads world).mono fun begun middle started => ?_
  exact ((goOn begun).leads middle).mono fun _ _ went => IsTrans.trans _ _ _ started went

end Moves

end Herald.Pass
