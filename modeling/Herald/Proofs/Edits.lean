import Herald.Proofs.Frame
import Herald.Proofs.Turns

/-! # What an operation makes of a campaign

An operation on stored campaigns is at most one write to one row. `Operation.Changes` says where a
campaign has to stand for each of them and what it is afterwards, and `Operation.wrote` that
whatever is attempted has either changed its campaign so and succeeded, or has changed no campaign
at all.
-/

namespace Herald

variable {σ α : Type}

namespace Operation

/-- What an operation that succeeds makes of a campaign. -/
inductive Changes : Operation → Campaign α → Campaign α → Prop
  | scheduled {id : Int} {time : Option Moment} {old : Campaign α} (draft : old.status = .draft)
    (scheduledAt now : Moment) :
    Changes (.operate (.schedule id time)) old
      { old with status := .scheduled, scheduledAt := some scheduledAt, updatedAt := now }
  | activated {zone : Zone} {id : Int} {old : Campaign α} (automated : old.isAutomated = true)
    (waits : old.status = .draft ∨ old.status = .paused) (nextRunAt now : Moment) :
    Changes (.operate (.activate zone id)) old
      { old with
        status := .active, nextRunAt := some nextRunAt, pauseReason := none, updatedAt := now }
  | paused {id : Int} {reason : Option String} {old : Campaign α}
    (waits : old.status = .scheduled ∨ old.status = .active) (now : Moment) :
    Changes (.operate (.pause id reason)) old
      { old with status := .paused, pauseReason := reason, nextRunAt := none, updatedAt := now }
  | reactivated {zone : Zone} {id : Int} {old : Campaign α} (automated : old.isAutomated = true)
    (waits : old.status = .draft ∨ old.status = .paused) (nextRunAt now : Moment) :
    Changes (.operate (.resume zone id)) old
      { old with
        status := .active, nextRunAt := some nextRunAt, pauseReason := none, updatedAt := now }
  | resumed {zone : Zone} {id : Int} {old : Campaign α} (once : old.isAutomated = false)
    (waits : old.status = .paused) (now : Moment) :
    Changes (.operate (.resume zone id)) old
      { old with status := .scheduled, pauseReason := none, updatedAt := now }
  | cancelled {id : Int} {old : Campaign α} (ongoing : old.status.isTerminal = false)
    (time now : Moment) :
    Changes (.operate (.cancel id)) old
      { old with
        status := .cancelled, nextRunAt := none, completedAt := some time, updatedAt := now }
  | begun {id : Int} {old : Campaign α} (runnable : old.status.isRunnable = true)
    (time now : Moment) :
    Changes (.begin id) old
      { old with
        status := .sending, startedAt := old.startedAt.or (some time), pauseReason := none
        updatedAt := now }
  | left {id : Int} {exit : Exit} {reason : Option String} {completedAt nextRunAt : Option Moment}
    {old : Campaign α} (sending : old.status = .sending) (time now : Moment) :
    Changes (.finish id exit reason completedAt nextRunAt) old
      { Pass.left ⟨exit.status, reason, completedAt, nextRunAt⟩ time old with
        status := exit.status, updatedAt := now }
  | failed {id : Int} {reason : String} {old : Campaign α} (sending : old.status = .sending)
    (time now : Moment) :
    Changes (.markFailed id reason) old
      { old with
        status := .failed
        failureReason := some (Provider.cutText Lifecycle.reasonLength reason)
        completedAt := some time, updatedAt := now }
  | expired {id : Int} {time : Moment} {old : Campaign α} (active : old.status = .active)
    (now : Moment) :
    Changes (.expire id time) old
      { old with
        status := .completed, completedAt := some time, nextRunAt := none, updatedAt := now }

/-- The campaign that an operation is about, if there is one already. -/
def target? : Operation → Option Int
  | create .. => none
  | operate (.schedule id _) => some id
  | operate (.activate _ id) => some id
  | operate (.pause id _) => some id
  | operate (.resume _ id) => some id
  | operate (.cancel id) => some id
  | begin id => some id
  | finish id .. => some id
  | markFailed id _ => some id
  | expire id _ => some id

/-- What has come of an operation that was attempted in a world. -/
inductive Wrote [Amount α] (operation : Operation) (world : World σ α) :
    Except Failure Bool → World σ α → Prop
  | refused {result : Except Failure Bool} (fails : result ≠ .ok true) :
    Wrote operation world result world
  | made {tenant : String} {draft : Draft} (creates : operation = .create tenant draft)
    (now : Moment) :
    Wrote operation world (.ok true) { world with store := { world.store with
      campaigns := world.store.campaigns ++
        [Campaign.ofDraft (nextId (world.store.campaigns.map Campaign.id)) tenant now draft] } }
  | attempted {result : Except Failure Bool} {id : Int} {condition : Campaign α → Bool}
    {change : Campaign α → Campaign α} (about : operation.target? = some id)
    (ids : ∀ campaign, (change campaign).id = campaign.id)
    (changes : ∀ old, world.store.campaign? id = some old → condition old = true →
      operation.Changes old (change old))
    (succeeds : result = .ok true ↔
      ∃ old, world.store.campaign? id = some old ∧ condition old = true) :
    Wrote operation world result
      { world with store := world.store.updateCampaign id condition change }

variable [Amount α] {operation : Operation} {world after : World σ α}

/-- What has come of an operation does not depend on how its success is told. -/
theorem Wrote.congr {result other : Except Failure Bool} (wrote : operation.Wrote world result after)
    (same : other = .ok true ↔ result = .ok true) : operation.Wrote world other after := by
  cases wrote with
  | refused fails => exact .refused fun succeeds => fails (same.mp succeeds)
  | made creates now =>
    rw [same.mpr rfl]
    exact .made creates now
  | attempted about ids changes succeeds => exact .attempted about ids changes (same.trans succeeds)

omit [Amount α] in
/-- Where the condition of a write holds of no campaign that is found, no row is changed, as long as
no two rows share an id. -/
theorem updateCampaign_eq_self {store : Store α} {id : Int} {condition : Campaign α → Bool}
    {change : Campaign α → Campaign α} (ascending : Ascending (store.campaigns.map Campaign.id))
    (none : ∀ old, store.campaign? id = some old → condition old = false) :
    store.updateCampaign id condition change = store := by
  have unique : (store.campaigns.map Campaign.id).Nodup :=
    (List.Pairwise.of_cons ascending).imp fun less => Int.ne_of_lt less
  have same : ∀ campaign ∈ store.campaigns,
      (if campaign.id == id && condition campaign then change campaign else campaign) =
        campaign := by
    intro campaign member
    refine if_neg fun holds => ?_
    rw [Bool.and_eq_true, beq_iff_eq] at holds
    have found : store.campaign? id = some campaign :=
      holds.1 ▸ find?_of_nodup unique member
    exact Bool.false_ne_true ((none campaign found).symm.trans holds.2)
  rw [Store.updateCampaign, List.map_congr_left same, List.map_id']

/-- An operation that does not succeed has changed nothing. -/
theorem Wrote.eq_of_fails {result : Except Failure Bool} (wrote : operation.Wrote world result after)
    (ascending : Ascending (world.store.campaigns.map Campaign.id)) (fails : result ≠ .ok true) :
    after = world := by
  cases wrote with
  | refused => rfl
  | made => exact absurd rfl fails
  | attempted about ids changes succeeds =>
    rw [updateCampaign_eq_self ascending fun old found => Bool.eq_false_iff.mpr fun holds =>
      fails (succeeds.mpr ⟨old, found, holds⟩)]

end Operation

/-! ## Each operation -/

namespace Lifecycle

variable [Amount α] {operation : Operation} {id : Int} {allowed : CampaignStatus → Bool}
  {change : Campaign α → Campaign α} {world : World σ α}

/-- A transition changes its campaign, or no campaign at all. -/
theorem transition_wrote {target : CampaignStatus} (about : operation.target? = some id)
    (ids : ∀ campaign, (change campaign).id = campaign.id)
    (leads : ∀ campaign, (change campaign).status = target)
    (changes : ∀ old, world.store.campaign? id = some old → allowed old.status = true →
      operation.Changes old { change old with updatedAt := world.now }) :
    Ends (transition id allowed change) world fun result after =>
      operation.Wrote world result after ∧ Ending id allowed target world after result := by
  refine Leads.and ?_ (transition_changed id allowed ids leads world)
  refine Leads.mono (transition_ends id allowed change world) ?_
  rintro (failure | changed) after wrote
  · cases wrote
    exact .refused fun same => by cases same
  · obtain ⟨happens, rfl⟩ := wrote
    refine .attempted about ids changes ?_
    rw [Except.ok.injEq, happens, Option.any_eq_true]

/-- An operator's transition hands the campaign on if it has changed it. -/
theorem required_wrote {target : CampaignStatus} {action : String}
    (about : operation.target? = some id) (ids : ∀ campaign, (change campaign).id = campaign.id)
    (leads : ∀ campaign, (change campaign).status = target)
    (changes : ∀ old, world.store.campaign? id = some old → allowed old.status = true →
      operation.Changes old { change old with updatedAt := world.now }) :
    Ends (do
        let changed ← transition id allowed change
        require id changed action : Run σ α (Campaign α)) world
      fun result after => operation.Wrote world (result.map fun _ => true) after := by
  rw [ends_bind]
  refine Leads.mono (transition_wrote about ids leads changes) ?_
  rintro (failure | changed) middle ⟨wrote, ending⟩
  · exact wrote.congr (by simp [Except.map])
  · dsimp only
    refine Leads.mono (require_ends fun happened => ?_) ?_
    · cases happened
      exact ending.stands
    · rintro result after ⟨rfl, hands⟩
      refine wrote.congr ?_
      cases result with
      | error failure => simpa [Except.map] using hands
      | ok campaign => simpa [Except.map] using hands

end Lifecycle

namespace Operation

variable [Amount α] {world : World σ α}

theorem create_wrote (tenant : String) (draft : Draft) :
    Ends (Operation.create tenant draft).run world ((Operation.create tenant draft).Wrote world) := by
  rw [run, ends_bind, Lifecycle.create]
  by_cases deep : draft.filter.isTooDeep = true
  · rw [if_pos deep, ends_bind, ends_throw]
    exact .refused fun same => by cases same
  · rw [if_neg deep, ends_bind, ends_clock]
    dsimp only
    refine ends_commit_of (fun failure => .refused fun same => by cases same) ?_
    intro value store wrote
    obtain ⟨days, _, wrote⟩ := ok_of_bind wrote
    obtain ⟨minutes, _, wrote⟩ := ok_of_bind wrote
    cases wrote
    exact .made rfl world.now

/-- An operator's action succeeds if it hands its campaign on. -/
theorem operate_wrote {action : OperatorAction}
    (wrote : Ends (action.run : Run σ α (Campaign α)) world fun result after =>
      (operate action).Wrote world (result.map fun _ => true) after) :
    Ends (operate action).run world ((operate action).Wrote world) := by
  rw [run, ends_bind]
  refine Leads.mono wrote fun result after wrote => ?_
  cases result <;> exact wrote

omit [Amount α] in
/-- A campaign that is looked up is the one of the table, and nothing has changed. -/
theorem get?_found (id : Int) (world : World σ α) :
    Ends (Lifecycle.get? id none) world fun result after =>
      after = world ∧ ∀ found, result = .ok found → world.store.campaign? id = found := by
  by_cases created : world.store.created = true
  · rw [Pass.get?_ends created]
    refine ⟨rfl, fun found same => ?_⟩
    cases fits : Cell.fitted id with
    | error failure =>
      rw [fits] at same
      cases same
    | ok fit =>
      cases fitted_eq fits
      rw [fits] at same
      exact Except.ok.inj same
  · simp only [Lifecycle.get?, Run.consult, ends_bind, ends_get, created, Bool.false_eq_true,
      ↓reduceIte, ends_throw]
    exact ⟨trivial, fun found same => by cases same⟩

/-- What becomes of an automated campaign that is found and activated. -/
theorem activate_wrote {operation : Operation} {zone : Zone} {id : Int}
    (about : operation.target? = some id)
    (changes : ∀ (old : Campaign α) nextRun, old.isAutomated = true →
      (old.status = .draft ∨ old.status = .paused) → operation.Changes old { old with
        status := .active, nextRunAt := some nextRun, pauseReason := none
        updatedAt := world.now }) :
    Ends (Lifecycle.activate zone id) world
      fun result after => operation.Wrote world (result.map fun _ => true) after := by
  have refused : ∀ failure : Failure,
      operation.Wrote world ((Except.error failure : Except Failure (Campaign α)).map
        fun _ => true) world := fun _ => .refused fun same => by cases same
  rw [Lifecycle.activate, ends_bind]
  refine Leads.mono (get?_found id world) ?_
  rintro (failure | _ | old) middle ⟨rfl, here⟩
  · exact refused failure
  · exact refused _
  · dsimp only
    by_cases automated : old.isAutomated = true
    · simp only [automated, Bool.not_true, Bool.false_eq_true, ↓reduceIte]
      rw [ends_bind, ends_clock]
      dsimp only
      rw [ends_bind, ends_pure?]
      cases old.window.nextOpen zone middle.now with
      | error failure => exact refused failure
      | ok nextRun =>
        dsimp only
        refine Lifecycle.required_wrote about (fun _ => rfl) (fun _ => rfl) ?_
        intro other found allows
        cases (here _ rfl).symm.trans found
        exact changes old nextRun automated (by simpa using allows)
    · rw [Bool.not_eq_true] at automated
      simp only [automated, Bool.not_false, ↓reduceIte]
      exact refused _

/-- A campaign is resumed by activating it if it is automated, and otherwise by scheduling it. -/
theorem resume_wrote (zone : Zone) (id : Int) :
    Ends (Lifecycle.resume zone id) world fun result after =>
      (operate (.resume zone id)).Wrote world (result.map fun _ => true) after := by
  rw [Lifecycle.resume, ends_bind]
  refine Leads.mono (get?_found id world) ?_
  rintro (failure | found) middle ⟨rfl, here⟩
  · exact .refused fun same => by cases same
  · dsimp only
    split
    · exact activate_wrote rfl fun old nextRun automated waits =>
        .reactivated automated waits nextRun middle.now
    · rename_i once
      refine Lifecycle.required_wrote rfl (fun _ => rfl) (fun _ => rfl) fun old there waits => ?_
      cases (here _ rfl).symm.trans there
      exact .resumed (by simpa using once) (beq_iff_eq.mp waits) middle.now

theorem begin_wrote (id : Int) :
    Ends (Operation.begin id).run world ((Operation.begin id).Wrote world) := by
  rw [run, Lifecycle.begin, ends_bind, ends_bind, ends_clock]
  dsimp only
  rw [ends_bind]
  refine Leads.mono (Lifecycle.transition_wrote rfl (fun _ => rfl) (fun _ => rfl)
    fun old _ runnable => .begun runnable world.now world.now) ?_
  rintro (failure | _ | _) middle ⟨wrote, ending⟩
  · exact wrote
  · dsimp only
    rw [if_neg Bool.false_ne_true, ends_bind]
    refine leads_of_still (Lifecycle.status?_moves id) fun status => ?_
    cases status <;> exact wrote.congr (by simp)
  · have changed : Lifecycle.Changed .. := ending
    dsimp only
    rw [if_pos rfl, Pass.get?_ends changed.created, changed.fitted]
    exact wrote

/-- Whatever is attempted, it has changed the campaign that it is about as it does when it succeeds,
or it has changed no campaign at all. -/
theorem wrote (operation : Operation) (world : World σ α) :
    Ends operation.run world (operation.Wrote world) := by
  cases operation with
  | create tenant draft => exact create_wrote tenant draft
  | begin id => exact begin_wrote id
  | finish id exit reason completedAt nextRunAt =>
    rw [run, ends_bind, ends_clock]
    dsimp only
    refine Leads.mono (Lifecycle.transition_wrote rfl (fun _ => rfl) (fun _ => rfl) ?_)
      fun _ _ wrote => wrote.1
    exact fun old _ sending => .left (beq_iff_eq.mp sending) world.now world.now
  | markFailed id reason =>
    rw [run, Lifecycle.markFailed, ends_bind, ends_clock]
    dsimp only
    refine Leads.mono (Lifecycle.transition_wrote rfl (fun _ => rfl) (fun _ => rfl) ?_)
      fun _ _ wrote => wrote.1
    exact fun old _ sending => .failed (beq_iff_eq.mp sending) world.now world.now
  | expire id time =>
    rw [run, Lifecycle.expire]
    refine Leads.mono (Lifecycle.transition_wrote rfl (fun _ => rfl) (fun _ => rfl) ?_)
      fun _ _ wrote => wrote.1
    exact fun old _ active => .expired (beq_iff_eq.mp active) world.now
  | operate action =>
    refine operate_wrote ?_
    cases action with
    | schedule id time =>
      rw [OperatorAction.run, Lifecycle.schedule, ends_bind, ends_clock]
      dsimp only
      refine Lifecycle.required_wrote rfl (fun _ => rfl) (fun _ => rfl) fun old _ draft => ?_
      exact .scheduled (beq_iff_eq.mp draft) _ world.now
    | activate zone id =>
      exact activate_wrote rfl fun old nextRun automated waits =>
        .activated automated waits nextRun world.now
    | pause id reason =>
      rw [OperatorAction.run, Lifecycle.pause]
      refine Lifecycle.required_wrote rfl (fun _ => rfl) (fun _ => rfl) fun old _ waits => ?_
      exact .paused (by simpa using waits) world.now
    | resume zone id => exact resume_wrote zone id
    | cancel id =>
      rw [OperatorAction.run, Lifecycle.cancel, ends_bind, ends_clock]
      dsimp only
      refine Lifecycle.required_wrote rfl (fun _ => rfl) (fun _ => rfl) fun old _ ongoing => ?_
      exact .cancelled (by simpa using ongoing) world.now world.now

end Operation

end Herald
