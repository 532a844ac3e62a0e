import Herald.Proofs.Beginning
import Herald.Proofs.Listing
import Herald.Proofs.Visits

/-! # Passes that nobody disturbs

An engine is calm if nothing happens around it: its providers answer and fail as they like, but
meanwhile nobody acts and no time passes. Then only the pass itself moves its campaign, and where it
leaves it depends on how its walk has ended.
-/

namespace Herald

variable {σ α : Type}

/-- An engine around which nothing happens while its providers are asked. -/
structure Engine.IsCalm (engine : Engine σ α) : Prop where
  exchange : ∀ request, Moves (Agree fun world : World σ α => (world.store, world.now))
    (engine.exchange request).run
  beforeFinish : Moves (Agree fun world : World σ α => (world.store, world.now))
    engine.beforeFinish.run

variable [Amount α] {engine : Engine σ α}

namespace Engine.IsCalm

variable (calm : engine.IsCalm)

include calm

/-- No time passes in a pass. -/
theorem respects_now : engine.Respects (Agree World.now) where
  message := Send.message_moves
    (fun request => (calm.exchange request).mono fun _ _ same => congrArg Prod.snd same)
    (fun _ _ => rfl) (fun _ _ => rfl)
  cooldown := record_moves fun _ _ => rfl
  life _ _ _ _ _ := rfl
  tally _ _ _ := Lifecycle.apply_moves fun _ _ _ => rfl
  beforeFinish := calm.beforeFinish.mono fun _ _ same => congrArg Prod.snd same
  journal _ _ := rfl

/-- A walk leaves everything alone but the log, the cooldowns and the balances. -/
theorem reaches {κ : Type} (view : Store α → κ)
    (blind : ∀ (store : Store α) messages cooldowns balances,
      view { store with messages, cooldowns, balances } = view store) :
    engine.Reaches (Agree fun world : World σ α => view world.store) where
  message := Send.message_moves
    (fun request => (calm.exchange request).mono fun _ _ same =>
      congrArg (fun both : Store α × Moment => view both.1) same)
    (fun world balances => blind world.store _ _ balances)
    (fun world row => blind world.store (world.store.messages ++ [row]) _ _)
  cooldown := record_moves fun world cooldowns => blind world.store _ cooldowns _

omit [Amount α] in
theorem keepsLedgers : Pass.KeepsLedgers engine where
  log request := (calm.exchange request).mono fun _ _ same =>
    congrArg (fun both : Store α × Moment => both.1.messages) same
  cooldowns request := (calm.exchange request).mono fun _ _ same =>
    congrArg (fun both : Store α × Moment => both.1.cooldowns) same

theorem walk_campaigns (setting : Pass.Setting α) :
    Moves (Agree fun world : World σ α => world.store.campaigns) (setting.walk engine) :=
  Pass.walk_moves (calm.reaches (fun store => store.campaigns) fun _ _ _ _ => rfl) setting

/-- What follows a walk leaves log and cooldowns alone. -/
theorem settles_ledgers :
    engine.Settles (Agree fun world : World σ α => (world.store.messages, world.store.cooldowns)) where
  life _ _ _ _ _ := rfl
  tally _ _ _ := Lifecycle.apply_moves fun _ _ _ => rfl
  beforeFinish := calm.beforeFinish.mono fun _ _ same =>
    congrArg (fun both : Store α × Moment => (both.1.messages, both.1.cooldowns)) same
  journal _ _ := rfl

end Engine.IsCalm

/-- A campaign that stands still: its pass is not over, or has failed. -/
def Stuck (id : Int) (store : Store α) : Prop :=
  ∃ campaign, store.campaign? id = some campaign ∧
    (campaign.status = .sending ∨ campaign.status = .failed)

namespace Pass

/-- How a pass leaves its campaign, by what has stopped its walk. -/
inductive LeftAs (count : Cell) (campaign : Campaign α) : Option Stopped → Prop
  | stuck (stopped : Option Stopped) (status : campaign.status = .sending ∨ campaign.status = .failed) :
      LeftAs count campaign stopped
  | paused (status : campaign.status = .paused) (known : campaign.targetCount = count) :
      LeftAs count campaign (some .outOfBalance)
  | completed (status : campaign.status = .completed) (known : campaign.targetCount = count) :
      LeftAs count campaign none

/-- A pass that is closed with a failure leaves its campaign stuck. -/
theorem close_stuck (id : Int) (campaign : Campaign α) (isTest : Bool) (ledger : Ledger)
    (failure : Failure) :
    Moves (Keeps (Stuck id)) (close campaign isTest ledger (.error failure) : Run σ α _).run := by
  have journals : ∀ line, Moves (Keeps (Stuck id)) (Run.record line : Run σ α Unit).run :=
    fun _ _ stuck => stuck
  refine moves_run_bind (fail_moves ?_ ?_ journals) fun _ => moves_throw
  · refine fun _ _ => Lifecycle.apply_moves fun world campaigns sums => ?_
    rintro ⟨old, found, status⟩
    obtain ⟨campaign, found, sums⟩ := campaign?_of_sums sums found
    exact ⟨campaign, found, sums.status_eq ▸ status⟩
  · refine fun reason => moves_run_bind moves_clock fun now => fun world => ?_
    rintro ⟨old, found, status⟩
    change Ends (Lifecycle.transition campaign.id _ _) world fun _ after => Stuck id after.store
    refine Leads.mono (Lifecycle.transition_found campaign.id _ (fun _ => by rfl) found) ?_
    rintro (failure | changed) after wrote
    · cases wrote
      exact ⟨old, found, status⟩
    · refine ⟨_, wrote.2, ?_⟩
      split
      · exact .inr rfl
      · exact status

omit [Amount α] in
/-- A campaign that does not repeat leaves the sending state by what has stopped its walk. -/
theorem finish_left (calm : engine.IsCalm) {campaign old : Campaign α} {stopped : Option Stopped}
    {world : World σ α} (found : world.store.campaign? campaign.id = some old)
    (sending : old.status = .sending) (repeats : campaign.isAutomated = false) :
    Ends (finish engine campaign stopped) world fun result after =>
      match result with
      | .error _ => Stuck campaign.id after.store
      | .ok _ => ∃ left, after.store.campaign? campaign.id = some left ∧
          LeftAs old.targetCount left stopped := by
  have stuck : Stuck campaign.id world.store := ⟨old, found, .inl sending⟩
  rw [finish, ends_bind, ends_clock]
  dsimp only
  by_cases cancelled : (stopped == some .cancelled) = true
  · rw [if_pos cancelled, ends_bind]
    refine leads_of_still (Lifecycle.status?_moves campaign.id) fun status => ?_
    cases status with
    | error failure => exact stuck
    | ok status => exact ⟨old, found, .stuck stopped (.inl sending)⟩
  · rw [if_neg cancelled, ends_bind, ends_pure?]
    cases leaves : leaving engine.settings campaign (stopped == some .outOfBalance) world.now with
    | error failure => exact stuck
    | ok leave =>
      dsimp only
      rw [ends_bind]
      refine Leads.mono (calm.beforeFinish.leads world) ?_
      intro result middle same
      have store : middle.store = world.store := congrArg Prod.fst same
      rw [← store] at stuck found
      cases result with
      | error failure => exact stuck
      | ok value =>
        dsimp only
        rw [ends_bind]
        refine Leads.mono (Lifecycle.finish_found (fun _ => by rfl) found sending) ?_
        rintro (failure | left) after wrote
        · cases wrote
          exact stuck
        · obtain ⟨rfl, wrote⟩ := wrote
          refine ⟨_, wrote, ?_⟩
          rcases stopped with _ | _ | _
          · simp only [leaving, repeats, Bool.not_false, Bool.true_or, ↓reduceIte,
              show (none == some Stopped.outOfBalance) = false from rfl, Bool.false_eq_true,
              Except.ok.injEq] at leaves
            cases leaves
            exact .completed rfl rfl
          · exact absurd rfl cancelled
          · cases leaves
            exact .paused rfl rfl

/-- Behind a walk that has not failed, a campaign that does not repeat is left as that walk has
ended. -/
theorem conclude_left (calm : engine.IsCalm) {setting : Setting α} {progress : Progress}
    {world : World σ α} {old : Campaign α}
    (found : world.store.campaign? setting.campaign.id = some old) (sending : old.status = .sending)
    (repeats : setting.campaign.isAutomated = false) :
    Ends (setting.conclude engine (progress, none)) world fun _ after =>
      ∃ left, after.store.campaign? setting.campaign.id = some left ∧
        LeftAs setting.count left progress.stopped := by
  have closes : ∀ (middle : World σ α) ledger failure, Stuck setting.campaign.id middle.store →
      Ends (close setting.campaign setting.isTest ledger (.error failure)) middle fun _ after =>
        ∃ left, after.store.campaign? setting.campaign.id = some left ∧
          LeftAs setting.count left progress.stopped := by
    intro middle ledger failure stuck
    refine ((close_stuck setting.campaign.id setting.campaign setting.isTest ledger
      failure).leads middle).mono ?_
    intro result after keeps
    obtain ⟨left, found, status⟩ := keeps stuck
    exact ⟨left, found, .stuck _ status⟩
  rw [Setting.conclude, ends_bind, ends_attempt]
  refine Leads.mono (Lifecycle.apply_ends setting.campaign.id progress.tally _ world) ?_
  rintro (failure | applied) middle wrote
  · cases wrote
    exact closes world _ failure ⟨old, found, .inl sending⟩
  · cases applied with
    | false => exact absurd wrote.2.2 (Option.some_ne_none _)
    | true =>
      obtain ⟨campaigns, rfl, sums⟩ := wrote
      obtain ⟨applied, found', sums⟩ := campaign?_of_sums sums found
      have sending := sums.status_eq.trans sending
      have known := sums.targetCount_eq (campaign?_id found)
      dsimp only
      rw [ends_bind, ends_attempt]
      refine Leads.mono (finish_left calm found' sending repeats) ?_
      rintro (failure | ended) later left
      · exact closes later _ failure left
      · rw [known] at left
        have journals : ∀ line, Moves (Agree World.store) (Run.record line : Run σ α Unit).run :=
          fun _ _ => rfl
        refine Leads.mono ((moves_run_bind (journal_moves journals setting.campaign _) fun _ =>
          moves_run_pure).leads later) ?_
        intro result after same
        rw [show after.store = later.store from same]
        exact left

end Pass

end Herald
