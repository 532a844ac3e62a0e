import Mathlib.Logic.Relation
import Herald.Proofs.Action
import Herald.Campaign.Lifecycle

/-! # What stands while campaigns live

Passes and operators move campaigns through their lives; everything else about a campaign is settled
when it is made, apart from what its passes add up. `Store.standing` is the store without those
lives. Whatever only changes statuses leaves it as it is, and an engine is operated if its
surroundings do no more to the store than operators may.
-/

namespace Herald

variable {σ α κ : Type}

/-- Two worlds that look the same. -/
def Agree (view : World σ α → κ) (before after : World σ α) : Prop := view after = view before

instance (view : World σ α → κ) : IsPreorder (World σ α) (Agree view) where
  refl _ := rfl
  trans _ _ _ first second := second.trans first

/-- A campaign without its life: the status and the times and reasons that go with it. -/
def Campaign.terms (campaign : Campaign α) : Campaign α :=
  { campaign with
    status := .draft, pauseReason := none, failureReason := none, scheduledAt := none
    nextRunAt := none, lastRunAt := none, runCount := .int 0, startedAt := none
    completedAt := none, updatedAt := campaign.createdAt }

/-- The store without the lives of its campaigns. -/
def Store.standing (store : Store α) : Store α :=
  { store with campaigns := store.campaigns.map Campaign.terms }

/-- What does not look at lives is the same for stores with the same standing. -/
theorem view_of_standing {view : Store α → κ} (blind : ∀ store, view store.standing = view store)
    {before after : Store α} (same : after.standing = before.standing) :
    view after = view before := by
  rw [← blind after, same, blind before]

/-- A change of a campaign that is a change of its life alone. -/
def KeepsTerms (change : Campaign α → Campaign α) : Prop :=
  ∀ campaign, (change campaign).terms = campaign.terms

theorem standing_updateCampaign (store : Store α) (id : Int) (condition : Campaign α → Bool)
    {change : Campaign α → Campaign α} (keeps : KeepsTerms change) :
    (store.updateCampaign id condition change).standing = store.standing := by
  simp only [Store.standing, Store.updateCampaign, List.map_map]
  congr 1
  refine List.map_congr_left fun campaign _ => ?_
  simp only [Function.comp_apply]
  split
  · exact keeps campaign
  · rfl

/-- A conditional write is a change of the campaign that is looked up, if its condition holds. -/
theorem campaign?_updateCampaign (store : Store α) (id other : Int)
    (condition : Campaign α → Bool) {change : Campaign α → Campaign α}
    (ids : ∀ campaign, (change campaign).id = campaign.id) :
    (store.updateCampaign id condition change).campaign? other =
      (store.campaign? other).map fun campaign =>
        if campaign.id == id && condition campaign then change campaign else campaign := by
  have same : ∀ campaign : Campaign α,
      (if campaign.id == id && condition campaign then change campaign else campaign).id =
        campaign.id := by
    intro campaign
    split
    · exact ids campaign
    · rfl
  simp only [Store.campaign?, Store.updateCampaign, List.find?_map, Function.comp_def, same]

theorem campaign?_id {store : Store α} {id : Int} {campaign : Campaign α}
    (found : store.campaign? id = some campaign) : campaign.id = id := by
  simpa using List.find?_some found

namespace Lifecycle

variable {R : World σ α → World σ α → Prop} [IsPreorder (World σ α) R]

/-- A relation that no change of a campaign's life leaves. -/
def Allows (R : World σ α → World σ α → Prop) : Prop :=
  ∀ (world : World σ α) id condition change, KeepsTerms change →
    R world { world with store := world.store.updateCampaign id condition change }

/-- A transition is one conditional write, and tells whether its condition held. -/
theorem transition_ends (id : Int) (allowed : CampaignStatus → Bool)
    (change : Campaign α → Campaign α) (world : World σ α) :
    Ends (transition id allowed change) world fun result after =>
      match result with
      | .error _ => after = world
      | .ok changed =>
        changed = (world.store.campaign? id).any (fun campaign => allowed campaign.status) ∧
          after = { world with
            store := world.store.updateCampaign id (fun campaign => allowed campaign.status)
              fun campaign => { change campaign with updatedAt := world.now } } := by
  rw [transition, ends_bind, ends_clock]
  refine ends_commit_of (fun failure => rfl) fun value store wrote => ?_
  obtain ⟨fit, fits, wrote⟩ := ok_of_bind wrote
  cases fitted_eq fits
  cases wrote
  exact ⟨rfl, rfl⟩

/-- What becomes of a campaign in a transition of that or another one. -/
theorem transition_found (id : Int) (allowed : CampaignStatus → Bool)
    {change : Campaign α → Campaign α} (ids : ∀ campaign, (change campaign).id = campaign.id)
    {world : World σ α} {other : Int} {old : Campaign α}
    (found : world.store.campaign? other = some old) :
    Ends (transition id allowed change) world fun result after =>
      match result with
      | .error _ => after = world
      | .ok changed =>
        changed = (world.store.campaign? id).any (fun campaign => allowed campaign.status) ∧
          after.store.campaign? other = some (if old.id == id && allowed old.status then
            { change old with updatedAt := world.now } else old) := by
  have stamped : ∀ campaign,
      ({ change campaign with updatedAt := world.now } : Campaign α).id = campaign.id := ids
  refine Leads.mono (transition_ends id allowed change world) ?_
  rintro (failure | changed) after wrote
  · exact wrote
  · refine ⟨wrote.1, ?_⟩
    rw [wrote.2]
    refine (campaign?_updateCampaign _ id other _ stamped).trans ?_
    rw [found, Option.map_some]

/-- A campaign in the sending state leaves it. -/
theorem finish_found {id : Int} {status : CampaignStatus} {change : Campaign α → Campaign α}
    (ids : ∀ campaign, (change campaign).id = campaign.id) {world : World σ α} {old : Campaign α}
    (found : world.store.campaign? id = some old) (sending : old.status = .sending) :
    Ends (finish id status change) world fun result after =>
      match result with
      | .error _ => after = world
      | .ok left => left = true ∧ after.store.campaign? id =
          some { change old with status, updatedAt := world.now } := by
  have ids : ∀ campaign, ({ change campaign with status } : Campaign α).id = campaign.id := ids
  refine Leads.mono (transition_found id (· == .sending) ids found) ?_
  rintro (failure | changed) after wrote
  · exact wrote
  · simpa only [found, Option.any_some, sending, campaign?_id found, BEq.rfl, Bool.and_self,
      ↓reduceIte] using wrote

theorem transition_moves (allows : Allows R) (id : Int) (allowed : CampaignStatus → Bool)
    {change : Campaign α → Campaign α} (keeps : KeepsTerms change) :
    Moves R (transition id allowed change : Run σ α Bool).run := by
  refine moves_iff.mpr fun world => Leads.mono (transition_ends id allowed change world) ?_
  rintro (failure | changed) after wrote
  · cases wrote
    exact refl world
  · cases wrote.2
    exact allows world id _ _ keeps

/-- A relation that is left by no change of the life of a campaign that neither sends nor has been
cancelled. -/
def AllowsWaiting (R : World σ α → World σ α → Prop) : Prop :=
  ∀ id allowed (change : Campaign α → Campaign α), KeepsTerms change → allowed .sending = false →
    allowed .cancelled = false → Moves R (transition id allowed change : Run σ α Bool).run

theorem Allows.waiting (allows : Allows R) : AllowsWaiting R :=
  fun id allowed _ keeps _ _ => transition_moves allows id allowed keeps

theorem markFailed_moves (allows : Allows R) (id : Int) (reason : String) :
    Moves R (markFailed id reason : Run σ α Bool).run :=
  moves_run_bind moves_clock fun _ => transition_moves allows id _ fun _ => rfl

theorem expire_moves (allows : Allows R) (id : Int) (now : Moment) :
    Moves R (expire id now : Run σ α Bool).run := transition_moves allows id _ fun _ => rfl

theorem get?_moves (id : Int) (tenant : Option String) :
    Moves R (get? id tenant : Run σ α (Option (Campaign α))).run := moves_consult

theorem status?_moves (id : Int) : Moves R (status? id : Run σ α (Option CampaignStatus)).run :=
  moves_query

theorem require_moves (id : Int) (changed : Bool) (action : String) :
    Moves R (require id changed action : Run σ α (Campaign α)).run := by
  refine moves_run_bind (status?_moves id) fun status => ?_
  cases changed with
  | false => exact moves_throw
  | true =>
    refine moves_run_bind (get?_moves id none) fun found => ?_
    cases found <;> exact moves_pure

end Lifecycle

/-! ## Operators -/

/-- What operators do to a campaign. -/
inductive OperatorAction
  | schedule (id : Int) (time : Option Moment)
  | activate (zone : Zone) (id : Int)
  | pause (id : Int) (reason : Option String)
  | resume (zone : Zone) (id : Int)
  | cancel (id : Int)

namespace OperatorAction

/-- Carry out what an operator does. -/
def run : OperatorAction → Run σ α (Campaign α)
  | schedule id time => Lifecycle.schedule id time
  | activate zone id => Lifecycle.activate zone id
  | pause id reason => Lifecycle.pause id reason
  | resume zone id => Lifecycle.resume zone id
  | cancel id => Lifecycle.cancel id

variable {R : World σ α → World σ α → Prop} [IsPreorder (World σ α) R]

section Waiting

variable (waits : Lifecycle.AllowsWaiting R)

include waits

theorem activate_moves (zone : Zone) (id : Int) :
    Moves R (Lifecycle.activate zone id : Run σ α (Campaign α)).run := by
  have activates : ∀ nextRun : Moment, Moves R (Lifecycle.transition id
      (fun status => status == .draft || status == .paused) fun campaign : Campaign α =>
        { campaign with status := .active, nextRunAt := some nextRun, pauseReason := none } :
          Run σ α Bool).run := fun nextRun => waits id _ _ (fun _ => rfl) rfl rfl
  refine moves_run_bind (Lifecycle.get?_moves id none) fun found => ?_
  cases found with
  | none => exact moves_throw
  | some campaign =>
    dsimp only
    split
    · exact moves_run_bind moves_throw fun _ => moves_run_bind moves_clock fun now =>
        moves_run_bind moves_pure? fun next => moves_run_bind (activates next) fun changed =>
          Lifecycle.require_moves id changed _
    · exact moves_run_bind moves_clock fun now => moves_run_bind moves_pure? fun next =>
        moves_run_bind (activates next) fun changed => Lifecycle.require_moves id changed _

/-- An operator's action changes a campaign that waits for its next pass, or cancels one. -/
theorem moves_of (cancels : ∀ id, Moves R (Lifecycle.cancel id : Run σ α (Campaign α)).run)
    (action : OperatorAction) : Moves R (action.run : Run σ α (Campaign α)).run := by
  cases action with
  | schedule id time =>
    exact moves_run_bind moves_clock fun now =>
      moves_run_bind (waits id _ _ (fun _ => rfl) rfl rfl) fun changed =>
        Lifecycle.require_moves id changed _
  | activate zone id => exact activate_moves waits zone id
  | pause id reason =>
    exact moves_run_bind (waits id _ _ (fun _ => rfl) rfl rfl) fun changed =>
      Lifecycle.require_moves id changed _
  | resume zone id =>
    refine moves_run_bind (Lifecycle.get?_moves id none) fun found => ?_
    split
    · exact activate_moves waits zone id
    · exact moves_run_bind (waits id _ _ (fun _ => rfl) rfl rfl) fun changed =>
        Lifecycle.require_moves id changed _
  | cancel id => exact cancels id

end Waiting

/-- An operator's action is at most a change of one campaign's life. -/
theorem moves (allows : Lifecycle.Allows R) (action : OperatorAction) :
    Moves R (action.run : Run σ α (Campaign α)).run :=
  action.moves_of allows.waiting fun id => moves_run_bind moves_clock fun _ =>
    moves_run_bind (Lifecycle.transition_moves allows id _ fun _ => rfl) fun changed =>
      Lifecycle.require_moves id changed _

end OperatorAction

/-- One thing that happens around an engine: an operator acts, or nothing happens to the store while
time and the providers move on. -/
inductive OperatorStep : World σ α → World σ α → Prop
  | act (world : World σ α) (action : OperatorAction) :
      OperatorStep world ((action.run : Run σ α (Campaign α)).run.run world).2
  | elapse {before after : World σ α} (same : after.store = before.store) :
      OperatorStep before after

/-- Nothing but operators' actions lies between two worlds as far as the store goes. -/
def Operated : World σ α → World σ α → Prop := Relation.ReflTransGen OperatorStep

theorem Operated.related {R : World σ α → World σ α → Prop} [IsPreorder (World σ α) R]
    (allows : Lifecycle.Allows R)
    (elapses : ∀ before after : World σ α, after.store = before.store → R before after)
    {before after : World σ α} (operated : Operated before after) : R before after := by
  induction operated with
  | refl => exact refl before
  | tail _ step ih =>
    refine IsTrans.trans _ _ _ ih ?_
    cases step with
    | act action => exact action.moves allows _
    | elapse same => exact elapses _ _ same

theorem allows_standing : Lifecycle.Allows (Agree fun world : World σ α => world.store.standing) :=
  fun world id condition _ keeps => standing_updateCampaign world.store id condition keeps

theorem Operated.standing {before after : World σ α} (operated : Operated before after) :
    after.store.standing = before.store.standing :=
  operated.related (R := Agree fun world => world.store.standing) allows_standing
    fun _ _ same => congrArg Store.standing same

/-- An engine around which nothing but operators' actions happens to the store, whatever its
providers answer and however they fail. -/
structure OperatedEngine (σ α : Type) extends Engine σ α where
  exchange_operated : ∀ request world, Operated world ((exchange request).run.run world).2
  beforeFinish_operated : ∀ world, Operated world (beforeFinish.run.run world).2

/-- While a provider is asked, only the lives of campaigns change. -/
theorem OperatedEngine.exchange_moves (engine : OperatedEngine σ α) {view : Store α → κ}
    (blind : ∀ store, view store.standing = view store) (request : Request) :
    Moves (Agree fun world => view world.store) (engine.exchange request).run :=
  fun world => view_of_standing blind (engine.exchange_operated request world).standing

theorem OperatedEngine.exchange_ends (engine : OperatedEngine σ α) (request : Request)
    (world : World σ α) :
    Ends (engine.exchange request) world
      fun _ after => after.store.standing = world.store.standing :=
  (engine.exchange_operated request world).standing

end Herald
