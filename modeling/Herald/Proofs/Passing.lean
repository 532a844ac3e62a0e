import Herald.Proofs.Standing
import Herald.Proofs.Walk
import Herald.Scheduler

/-! # What a pass is made of

A pass writes only in a few ways: it sends messages, records cooldowns, moves the campaign through
its life, adds up its tally, and hands over to what surrounds the engine. A relation between worlds
that each of these respects is respected by every part of a pass, and by a tick that runs passes,
wherever they end.
-/

namespace Herald

variable {σ α β : Type} {engine : Engine σ α} {R : World σ α → World σ α → Prop}

section Parts

variable [IsPreorder (World σ α) R]

theorem activeTargets_moves (campaign : Int) (kind : String) (days : Cell) :
    Moves R (CooldownLedger.activeTargets campaign kind days none : Run σ α (List Int)).run := by
  refine moves_run_bind moves_pure? fun positive => ?_
  split
  · exact moves_run_pure
  · exact moves_run_bind moves_clock fun _ => moves_run_bind moves_pure? fun _ => moves_consult

theorem CooldownLedger.recordIn_messages (campaign targetId : Int) (target tenant : String)
    (now : Moment) (store : Store α) :
    (recordIn campaign target targetId tenant now store).messages = store.messages := by
  unfold recordIn
  split <;> rfl

/-- Recording a pair changes the ledger alone, at the time it is done. -/
theorem CooldownLedger.record_ends (campaign targetId : Int) (target tenant : String)
    (world : World σ α) :
    Ends (record campaign target targetId tenant) world fun result after =>
      match result with
      | .ok _ => after = { world with
          store := recordIn campaign target targetId tenant world.now world.store }
      | .error _ => after = world := by
  rw [record, ends_bind, ends_clock]
  refine ends_commit_of (fun _ => rfl) fun value store wrote => ?_
  obtain ⟨id, fitsId, wrote⟩ := ok_of_bind wrote
  obtain ⟨other, fitsTarget, wrote⟩ := ok_of_bind wrote
  cases fitted_eq fitsId
  cases fitted_eq fitsTarget
  cases wrote
  rfl

theorem record_moves
    (writes : ∀ (world : World σ α) cooldowns,
      R world { world with store := { world.store with cooldowns } })
    (campaign : Int) (kind : String) (target : Int) (tenant : String) :
    Moves R (CooldownLedger.record campaign kind target tenant : Run σ α Unit).run := by
  refine moves_run_bind moves_clock fun now => moves_commit fun world value store _ wrote => ?_
  obtain ⟨fitCampaign, _, wrote⟩ := ok_of_bind wrote
  obtain ⟨fitTarget, _, wrote⟩ := ok_of_bind wrote
  cases wrote
  unfold CooldownLedger.recordIn
  split <;> exact writes world _

namespace Pass

theorem runnable_moves (id : Int) : Moves R (runnable id : Run σ α (Campaign α)).run := by
  refine moves_run_bind (Lifecycle.get?_moves id none) fun found => ?_
  cases found with
  | none => exact moves_throw
  | some campaign =>
    dsimp only
    split
    · exact moves_run_pure
    · exact moves_throw

theorem compile_moves (campaign : Campaign α) :
    Moves R (compile campaign : Run σ α Predicate).run :=
  moves_run_bind (moves_run_bind moves_pure? fun _ => moves_run_bind moves_query fun _ =>
    moves_pure?) fun _ => moves_pure?

theorem begin_moves (allows : Lifecycle.Allows R) (id : Int) :
    Moves R (Lifecycle.begin id : Run σ α (Option (Campaign α))).run := by
  refine moves_run_bind moves_clock fun now =>
    moves_run_bind (Lifecycle.transition_moves allows id _ fun _ => rfl) fun claimed => ?_
  split
  · exact Lifecycle.get?_moves id none
  · exact moves_run_bind (Lifecycle.status?_moves id) fun _ => moves_throw

theorem excludedTargets_moves (campaign : Campaign α) :
    Moves R (excludedTargets campaign : Run σ α (List Int)).run := by
  refine moves_run_bind (activeTargets_moves _ _ _) fun cooled => ?_
  split
  · exact moves_run_pure
  · exact moves_run_bind moves_query fun _ => moves_run_pure

theorem targetCount_moves (campaign : Campaign α) (audience : Audience) :
    Moves R (targetCount engine campaign audience).run := by
  rw [targetCount]
  split
  · exact moves_run_pure
  · exact moves_run_bind Audience.fold_moves fun _ => moves_run_pure

theorem excludedAndLimit_moves (campaign : Campaign α) (count : Cell) :
    Moves R (excludedAndLimit campaign count : Run σ α (List Int × Option Int)).run :=
  moves_run_bind (excludedTargets_moves campaign) fun _ =>
    moves_run_bind moves_pure? fun _ => moves_run_pure

/-- The end of a pass moves along whatever its change of the campaign moves along. -/
theorem finish_moves_of {campaign : Campaign α}
    (leaves : ∀ outOfBalance now leaving,
      Pass.leaving engine.settings campaign outOfBalance now = .ok leaving →
        Moves R (Lifecycle.finish campaign.id leaving.status (left leaving now) :
          Run σ α Bool).run)
    (prepares : Moves R engine.beforeFinish.run) (stopped : Option Stopped) :
    Moves R (finish engine campaign stopped).run := by
  refine moves_run_bind moves_clock fun now => ?_
  have leave : Moves R (do
      let leaving ← Run.pure? (leaving engine.settings campaign (stopped == some .outOfBalance) now)
      engine.beforeFinish
      if ← Lifecycle.finish campaign.id leaving.status (left leaving now) then
        return (some leaving.status, leaving.nextRunAt)
      else return (← Lifecycle.status? campaign.id, none) : Run σ α _).run := by
    refine moves_pure?_bind fun leaving left => moves_run_bind prepares fun _ =>
      moves_run_bind (leaves _ now leaving left) fun left => ?_
    split
    · exact moves_run_pure
    · exact moves_run_bind (Lifecycle.status?_moves campaign.id) fun _ => moves_run_pure
  split
  · exact moves_run_bind (Lifecycle.status?_moves campaign.id) fun _ => moves_run_pure
  · exact leave

theorem finish_moves (allows : Lifecycle.Allows R) (prepares : Moves R engine.beforeFinish.run)
    (campaign : Campaign α) (stopped : Option Stopped) :
    Moves R (finish engine campaign stopped).run :=
  finish_moves_of (fun _ _ _ _ => Lifecycle.transition_moves allows campaign.id _ fun _ => rfl)
    prepares stopped

theorem journal_moves (journals : ∀ line, Moves R (Run.record line : Run σ α Unit).run)
    (campaign : Campaign α) (result : PassResult) :
    Moves R (journal campaign result : Run σ α Unit).run :=
  moves_run_bind moves_pure? fun line => journals line

end Pass

theorem Scheduler.expireAll_moves {now : Moment}
    (expires : ∀ id, Moves R (Lifecycle.expire id now : Run σ α Bool).run)
    (campaigns : List (Campaign α)) :
    Moves R (expireAll now campaigns : Run σ α Nat).run := by
  induction campaigns with
  | nil => exact moves_run_pure
  | cons campaign rest ih =>
    exact moves_run_bind (expires campaign.id) fun _ => moves_run_bind ih fun _ => moves_run_pure

end Parts

variable [Amount α]

/-- What follows the walk of a pass respects a relation between worlds. -/
structure Engine.Settles (engine : Engine σ α) (R : World σ α → World σ α → Prop) : Prop where
  life : Lifecycle.Allows R
  tally : ∀ id tally count, Moves R (Lifecycle.apply id tally count : Run σ α Bool).run
  beforeFinish : Moves R engine.beforeFinish.run
  journal : ∀ line, Moves R (Run.record line : Run σ α Unit).run

/-- What the walk of a pass does to each target respects a relation between worlds. -/
structure Engine.Reaches (engine : Engine σ α) (R : World σ α → World σ α → Prop) : Prop where
  message : ∀ campaign isTest target channel,
    Moves R (Send.message engine campaign isTest target channel).run
  cooldown : ∀ campaign kind target tenant,
    Moves R (CooldownLedger.record campaign kind target tenant : Run σ α Unit).run

/-- Every single step of the passes of an engine respects a relation between worlds. -/
structure Engine.Respects (engine : Engine σ α) (R : World σ α → World σ α → Prop) : Prop
    extends engine.Settles R, engine.Reaches R

theorem Engine.Respects.mono {S : World σ α → World σ α → Prop} (respects : engine.Respects R)
    (weaken : ∀ before after, R before after → S before after) : engine.Respects S where
  message campaign isTest target channel :=
    (respects.message campaign isTest target channel).mono weaken
  cooldown campaign kind target tenant :=
    (respects.cooldown campaign kind target tenant).mono weaken
  life world id condition change keeps :=
    weaken _ _ (respects.life world id condition change keeps)
  tally id tally count := (respects.tally id tally count).mono weaken
  beforeFinish := respects.beforeFinish.mono weaken
  journal line := (respects.journal line).mono weaken

variable [IsPreorder (World σ α) R]

namespace Pass

/-- The messages to a target move along whatever a single message moves along. -/
theorem serve_moves {campaign : Campaign α} {isTest : Bool} {target : TargetRecord}
    (message : ∀ channel, Moves R (Send.message engine campaign isTest target channel).run)
    (channels : List Channel) (tally : Tally) (delivered : Bool) :
    Moves R (serve engine campaign isTest target channels tally delivered) := by
  induction channels generalizing tally delivered with
  | nil => exact moves_pure
  | cons channel rest ih =>
    rw [serve]
    refine moves_bind (message channel) fun result => ?_
    cases result with
    | error failure => cases failure <;> exact moves_pure
    | ok sent =>
      dsimp only
      cases tally.record channel sent with
      | error failure => exact moves_pure
      | ok tally => exact ih tally _

section Visits

variable {campaign : Campaign α} {target : TargetRecord}
  (cooldown : Moves R (CooldownLedger.record campaign.id campaign.target target.id campaign.tenant :
    Run σ α Unit).run)

include cooldown

omit [Amount α] in
theorem recordIf_moves (delivered : Bool) :
    Moves R (recordIf delivered campaign target : Run σ α Unit).run := by
  cases delivered with
  | false => exact moves_run_pure
  | true => exact cooldown

omit [Amount α] in
theorem afterTarget_moves (progress : Progress) (served : Served) :
    Moves R (afterTarget campaign target progress served : Steady σ α (Visit Progress)) := by
  cases served with
  | aborted failure => exact moves_pure
  | fully delivered =>
    refine moves_bind (recordIf_moves cooldown delivered) fun result => ?_
    cases result <;> exact moves_pure
  | outOfBalance delivered =>
    refine moves_bind (recordIf_moves cooldown delivered) fun result => ?_
    cases result <;> exact moves_pure

/-- The visit of a target moves along what its messages and its cooldown move along. -/
theorem visit_moves_of {isTest : Bool}
    (message : ∀ channel, Moves R (Send.message engine campaign isTest target channel).run)
    (excluded : List Int) (progress : Progress) :
    Moves R (visit engine campaign isTest excluded progress target) := by
  refine moves_bind (Lifecycle.status?_moves campaign.id) fun result => ?_
  cases result with
  | error failure => exact moves_pure
  | ok status =>
    dsimp only
    split
    · exact moves_pure
    · split
      · exact moves_pure
      · split
        · exact moves_pure
        · exact moves_bind (serve_moves message _ _ false) fun served =>
            afterTarget_moves cooldown _ served.2

end Visits

theorem visit_moves (reaches : engine.Reaches R) (campaign : Campaign α) (isTest : Bool)
    (excluded : List Int) (progress : Progress) (target : TargetRecord) :
    Moves R (visit engine campaign isTest excluded progress target) :=
  visit_moves_of (reaches.cooldown _ _ _ _) (reaches.message _ _ _) excluded progress

/-- The tally of a pass that has failed is added up unless that has been done. -/
theorem fail_moves {campaign : Campaign α} {isTest : Bool} {ledger : Ledger} {failure : Failure}
    (tally : ledger.applied = false → ∀ count,
      Moves R (Lifecycle.apply campaign.id ledger.progress.tally count : Run σ α Bool).run)
    (fails : ∀ reason, Moves R (Lifecycle.markFailed campaign.id reason : Run σ α Bool).run)
    (journals : ∀ line, Moves R (Run.record line : Run σ α Unit).run) :
    Moves R (fail campaign isTest ledger failure : Run σ α Unit).run := by
  have close : Moves R (do
      let _ ← Lifecycle.markFailed campaign.id failure.reason
      let status ← Lifecycle.status? campaign.id
      journal campaign (result campaign isTest ledger status none none) : Run σ α Unit).run :=
    moves_run_bind (fails _) fun _ => moves_run_bind (Lifecycle.status?_moves campaign.id) fun _ =>
      journal_moves journals _ _
  rw [fail]
  split
  · rename_i unapplied
    exact moves_run_bind (tally (Bool.not_eq_true' _ |>.mp unapplied) _) fun _ => close
  · exact close

end Pass

namespace Scheduler

theorem runAll_moves (executes : ∀ id, Moves R (Pass.execute engine id).run)
    (campaigns : List (Campaign α)) : Moves R (runAll engine campaigns) := by
  induction campaigns with
  | nil => exact moves_pure
  | cons campaign rest ih =>
    exact moves_bind (executes campaign.id) fun _ => moves_bind ih fun _ => moves_pure

/-- A tick respects what a pass and the end of a campaign respect. -/
theorem tick_moves (expires : ∀ id now, Moves R (Lifecycle.expire id now : Run σ α Bool).run)
    (executes : ∀ id, Moves R (Pass.execute engine id).run) : Moves R (tick engine).run :=
  moves_run_bind moves_clock fun now =>
    moves_run_bind (moves_run_bind moves_query fun _ => expireAll_moves (expires · now) _)
      fun _ => moves_run_bind (moves_run_bind moves_query fun _ => moves_pure?) fun campaigns =>
        moves_lift (runAll_moves executes campaigns)

end Scheduler

end Herald
