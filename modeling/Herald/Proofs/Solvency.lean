import Herald.Proofs.Dispatch
import Herald.Proofs.Guard
import Herald.Proofs.Once
import Herald.Proofs.Payments

/-! # Passes that can pay

A walk owes what the messages are charged with that are due to the targets still before it. Funds
that cover what is owed at the beginning cover it at every visit, since a visit uses up no more than
what is due to its target, and so they never run out. A walk that has not run out of balance is the
only thing to look at: whatever else ends a pass, nothing but that pauses the campaign.
-/

namespace Herald

variable {σ α : Type}

namespace Pass

/-! ## Walks -/

/-- What the messages that are due to some targets are charged with. -/
def owed (charge : Channel → ℕ) (excluded : List ℤ) (reach : Reach) (targets : List TargetRecord) :
    ℕ := ((due excluded reach targets).map fun message => charge message.2).sum

section Walks

variable {engine : Engine σ Exact} {campaign : Campaign Exact} {isTest : Bool}
  {excluded : List ℤ} {funds : World σ Exact → ℚ} {charge : Channel → ℕ}
  (message : ∀ target channel, charge channel < Decimal.countable →
    Affordable funds (charge channel) (Send.message engine campaign isTest target channel))
  (cooldown : ∀ campaign kind target tenant, Moves (NotLess funds)
    (CooldownLedger.record campaign kind target tenant : Run σ Exact Unit).run)

include message

/-- Funds that cover the messages to a target do not run out while these are sent. -/
theorem serve_affords (target : TargetRecord) (channels : List Channel) (tally : Tally)
    (delivered : Bool) {world : World σ Exact} (few : (channels.map charge).sum < Decimal.countable)
    (covered : ((channels.map charge).sum : ℕ) / (100 : ℚ) ≤ funds world) :
    Leads (serve engine campaign isTest target channels tally delivered) world fun served after =>
      (∀ got, served.2 ≠ .outOfBalance got) ∧
        funds world - ((channels.map charge).sum : ℕ) / 100 ≤ funds after := by
  induction channels generalizing tally delivered world with
  | nil => exact ⟨by rintro got ⟨⟩, sub_le_self _ (by positivity)⟩
  | cons channel rest ih =>
    rw [List.map_cons, List.sum_cons] at few covered ⊢
    rw [Nat.cast_add] at covered ⊢
    have others : (0 : ℚ) ≤ ((rest.map charge).sum : ℕ) / 100 := by positivity
    rw [serve, leads_bind]
    refine (message target channel (by omega) world (by linarith)).mono ?_
    rintro result middle ⟨solvent, left⟩
    have still : funds world - (charge channel + ((rest.map charge).sum : ℕ)) / 100 ≤
        funds middle := by linarith
    rcases result with failure | sent
    · cases failure with
      | insufficientBalance tenant amount => exact absurd rfl (solvent tenant amount)
      | _ => exact ⟨by rintro got ⟨⟩, still⟩
    · dsimp only
      cases tally.record channel sent with
      | error failure => exact ⟨by rintro got ⟨⟩, still⟩
      | ok counted =>
        refine (ih counted _ (by omega) (by linarith)).mono ?_
        rintro served after ⟨fully, richer⟩
        exact ⟨fully, by linarith⟩

include cooldown

/-- Funds that cover what is due to a target do not run out at its visit. -/
theorem visit_affords {progress : Progress} (unstopped : progress.stopped ≠ some .outOfBalance)
    (target : TargetRecord) {world : World σ Exact}
    (few : owed charge excluded campaign.reach [target] < Decimal.countable)
    (covered : (owed charge excluded campaign.reach [target] : ℕ) / (100 : ℚ) ≤ funds world) :
    Leads (visit engine campaign isTest excluded progress target) world fun visited after =>
      visited.found.stopped ≠ some .outOfBalance ∧
        funds world - (owed charge excluded campaign.reach [target] : ℕ) / 100 ≤ funds after := by
  have free : funds world - (owed charge excluded campaign.reach [target] : ℕ) / 100 ≤
      funds world :=
    sub_le_self _ (by positivity)
  rw [visit, leads_bind]
  refine Leads.mono (Lifecycle.status?_found campaign.id world) ?_
  rintro (failure | status) middle ⟨rfl, -⟩
  · exact ⟨unstopped, free⟩
  dsimp only
  split
  · exact ⟨by rintro ⟨⟩, free⟩
  split
  · exact ⟨unstopped, free⟩
  rename_i admits
  split
  · exact ⟨unstopped, free⟩
  have channels : owed charge excluded campaign.reach [target] =
      ((channelsFor campaign.reach target).map charge).sum := by
    rw [owed, due_of_admitted (Bool.not_eq_true _ ▸ admits), List.map_map]
    rfl
  rw [channels] at few covered free ⊢
  rw [leads_bind]
  refine (serve_affords message target _ _ false few covered).mono ?_
  rintro ⟨tally, served⟩ later ⟨fully, left⟩
  cases served with
  | aborted failure => exact ⟨unstopped, left⟩
  | outOfBalance got => exact absurd rfl (fully got)
  | fully got =>
    rw [afterTarget, leads_bind]
    refine ((recordIf_moves (cooldown _ _ _ _) got).leads later).mono ?_
    rintro (failure | recorded) after richer <;> exact ⟨unstopped, left.trans richer⟩

end Walks

theorem owed_cons (charge : Channel → ℕ) (excluded : List ℤ) (reach : Reach)
    (target : TargetRecord) (rest : List TargetRecord) :
    owed charge excluded reach (target :: rest) =
      owed charge excluded reach [target] + owed charge excluded reach rest := by
  rw [owed, ← List.singleton_append, due_append, List.map_append, List.sum_append, owed, owed]

/-- What a walk still owes with some records before it. -/
def Setting.owes (setting : Setting α) (charge : Channel → ℕ) (rest : List TargetRecord) : ℕ :=
  owed charge setting.excluded setting.campaign.reach (rest.filter setting.audience.selects)

theorem Setting.owes_cons (setting : Setting α) (charge : Channel → ℕ) (target : TargetRecord)
    (rest : List TargetRecord) : setting.owes charge (target :: rest) =
      (if setting.audience.selects target then
        owed charge setting.excluded setting.campaign.reach [target] else 0) +
          setting.owes charge rest := by
  unfold owes
  rw [List.filter_cons]
  split
  · exact owed_cons ..
  · exact (Nat.zero_add _).symm

/-- What holds with some records still before a walk: it has not run out of balance, and its funds
cover what it still owes. -/
structure Affords (setting : Setting α) (funds : World σ α → ℚ) (charge : Channel → ℕ)
    (rest : List TargetRecord) (progress : Progress) (world : World σ α) : Prop where
  unstopped : progress.stopped ≠ some .outOfBalance
  few : setting.owes charge rest < Decimal.countable
  covered : (setting.owes charge rest : ℕ) / (100 : ℚ) ≤ funds world

/-- Funds that cover what is due to all matching targets do not run out in a walk over them. -/
theorem walk_affords {engine : Engine σ Exact} {setting : Setting Exact} {world : World σ Exact}
    (funds : World σ Exact → ℚ) (charge : Channel → ℕ)
    (message : ∀ target channel, charge channel < Decimal.countable → Affordable funds
      (charge channel) (Send.message engine setting.campaign setting.isTest target channel))
    (cooldown : ∀ campaign kind target tenant, Moves (NotLess funds)
      (CooldownLedger.record campaign kind target tenant : Run σ Exact Unit).run)
    (table : ∀ progress target, Moves (Agree (World.table setting.audience.kind))
      (visit engine setting.campaign setting.isTest setting.excluded progress target))
    (orderly : Orderly world.store)
    (few : setting.owes charge (setting.audience.records 0 world.store) < Decimal.countable)
    (covered : (setting.owes charge (setting.audience.records 0 world.store) : ℕ) / (100 : ℚ) ≤
      funds world) :
    Leads (setting.walk engine) world fun walked _ => walked.1.stopped ≠ some .outOfBalance := by
  refine (Audience.walk_leads_each (I := Affords setting funds charge) table orderly.created
    (orderly.targets _) ?_ ?_ ⟨by rintro ⟨⟩, few, covered⟩).mono fun _ _ ⟨_, affords⟩ =>
      affords.unstopped
  · intro progress target rest middle affords
    have less : setting.owes charge rest ≤ setting.owes charge (target :: rest) := by
      rw [setting.owes_cons]
      exact Nat.le_add_left _ _
    exact ⟨affords.unstopped, less.trans_lt affords.few, le_trans (by gcongr) affords.covered⟩
  · rintro progress target rest middle selects ⟨unstopped, few, covered⟩
    rw [setting.owes_cons, if_pos selects] at few covered
    rw [Nat.cast_add] at covered
    have others : (0 : ℚ) ≤ setting.owes charge rest / 100 := by positivity
    refine (visit_affords message cooldown unstopped target (by omega) (by linarith)).mono ?_
    rintro visited after ⟨unstopped, left⟩
    exact ⟨unstopped, by omega, by linarith⟩

end Pass

/-! ## Ends of passes -/

/-- A campaign that is paused has been so before. -/
def PausedBefore (id : ℤ) (before after : World σ α) : Prop :=
  after.status? id = some .paused → before.status? id = some .paused

instance (id : ℤ) : IsPreorder (World σ α) (PausedBefore id) where
  refl _ := fun paused => paused
  trans _ _ _ := fun first second => first ∘ second

namespace Pass

variable [Amount α] {engine : Engine σ α} {id : ℤ} {flag : σ → Prop}

theorem apply_pausedBefore (target : ℤ) (tally : Tally) (count : Option Cell) :
    Moves (PausedBefore id) (Lifecycle.apply target tally count : Run σ α Bool).run :=
  Lifecycle.apply_moves fun _ _ sums => (World.status?_of_sums sums id).symm.trans

omit [Amount α] in
theorem markFailed_pausedBefore (target : ℤ) (reason : String) :
    Moves (PausedBefore id) (Lifecycle.markFailed target reason : Run σ α Bool).run := by
  refine moves_run_bind moves_clock fun now world => ?_
  change Ends (Lifecycle.transition target (· == .sending) _) world
    fun _ after => PausedBefore id world after
  refine Lifecycle.ends_transition .failed (fun _ => rfl) (fun _ => rfl)
    fun result after ending _ => ?_
  rcases result with failure | _ | _
  · exact (ending id).symm.trans
  · exact (ending.2 id).symm.trans
  · by_cases own : id = target
    · subst own
      exact fun paused => by cases ending.status_eq.symm.trans paused
    · exact (ending.others id own).symm.trans

/-- The close of a pass pauses nothing. -/
theorem close_pausedBefore (id : ℤ) (campaign : Campaign α) (isTest : Bool) (ledger : Ledger)
    (ended : Except Failure (Option CampaignStatus × Option Moment)) :
    Moves (PausedBefore id : World σ α → World σ α → Prop)
      (close campaign isTest ledger ended).run :=
  close_moves_of (apply_pausedBefore _) (markFailed_pausedBefore _) (fun _ _ paused => paused)
    isTest ledger ended

/-- A pass tells that its campaign has been paused only if it has run out of balance. -/
theorem close_reason {campaign : Campaign α} {isTest : Bool} {ledger : Ledger}
    (unstopped : ledger.progress.stopped ≠ some .outOfBalance)
    (ended : Except Failure (Option CampaignStatus × Option Moment)) (world : World σ α) :
    Ends (close campaign isTest ledger ended) world fun returned _ =>
      ∀ told, returned = .ok told → told.pauseReason = none := by
  rcases ended with failure | ⟨status, nextRunAt⟩
  · rw [close, ends_bind]
    refine (leads_true _ _).mono fun closed after _ => ?_
    cases closed <;> rintro told ⟨⟩
  · rw [close, ends_bind]
    refine (leads_true _ _).mono fun journaled after _ => ?_
    cases journaled with
    | error failure => rintro told ⟨⟩
    | ok value =>
      rintro told ⟨⟩
      exact if_neg fun broke => unstopped (beq_iff_eq.mp broke)

/-- What follows a walk that has not run out of balance tells of no pause. -/
theorem conclude_reason {setting : Setting α} {walked : Progress × Option Failure}
    (unstopped : walked.1.stopped ≠ some .outOfBalance) (world : World σ α) :
    Ends (setting.conclude engine walked) world fun returned _ =>
      ∀ told, returned = .ok told → told.pauseReason = none := by
  rcases walked with ⟨progress, _ | failure⟩
  · rw [Setting.conclude, ends_bind]
    refine (leads_true _ _).mono fun attempted middle _ => ?_
    rcases attempted with failure | _ | applied
    · rintro told ⟨⟩
    · exact close_reason unstopped _ middle
    · dsimp only
      rw [ends_bind]
      refine (leads_true _ _).mono fun ended later _ => ?_
      cases ended with
      | error failure => rintro told ⟨⟩
      | ok ended => exact close_reason unstopped ended later
  · exact close_reason unstopped _ world

/-- What follows a walk that has not run out of balance does not leave its campaign paused. -/
theorem conclude_unpaused (guarding : engine.Guarding id flag) {setting : Setting α}
    (own : setting.campaign.id = id) {walked : Progress × Option Failure} {world : World σ α}
    (guarded : Guarded id flag world)
    (cancelled : walked.1.stopped = some .cancelled → world.status? id = some .cancelled)
    (unstopped : walked.1.stopped ≠ some .outOfBalance) :
    Ends (setting.conclude engine walked) world fun _ after => after.status? id ≠ some .paused := by
  have closes : ∀ {ledger ended} {world : World σ α}, world.status? id ≠ some .paused →
      Ends (close setting.campaign setting.isTest ledger ended) world
        fun _ after => after.status? id ≠ some .paused :=
    fun stands => ((close_pausedBefore id _ _ _ _).leads _).mono fun _ _ before => stands ∘ before
  rcases walked with ⟨progress, _ | failure⟩
  · rw [Setting.conclude, ends_bind, ends_attempt, own]
    refine ((Lifecycle.apply_guards id id flag _ _).leads world).mono ?_
    rintro (failure | applied) middle guards
    · exact closes (guards.guarded guarded).not_paused
    · dsimp only
      rw [ends_bind, ends_attempt]
      refine (finish_exits guarding own (guards.guarded guarded) fun stops =>
        guards.cancelled (cancelled stops)).mono ?_
      rintro ended later ⟨-, pauses⟩
      exact closes fun paused => unstopped (pauses paused)
  · exact closes guarded.not_paused

end Pass

end Herald
