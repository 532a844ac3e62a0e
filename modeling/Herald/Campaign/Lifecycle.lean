import Herald.World
import Herald.Campaign.Tally
import Herald.RunWindow
import Herald.Store.Column

/-! # The life of a campaign

Every change of status is one conditional write: it happens only if the campaign stands where the
change starts from, so of two writers only one can win. Operators schedule, activate, pause, resume
and cancel; a pass claims a campaign and finishes it; the scheduler expires campaigns at their end
date.
-/

namespace Herald.Lifecycle

variable {σ α : Type}

/-! ## Reading -/

/-- The campaign of an id, perhaps only if it is a tenant's. -/
def get? (id : Int) (tenant : Option String) : Run σ α (Option (Campaign α)) :=
  Run.consult fun store => do
    let id ← Cell.fitted id
    return (store.campaign? id).filter fun campaign =>
      tenant.all fun tenant => campaign.tenant == tenant

/-- Where a campaign stands right now. -/
def status? (id : Int) : Run σ α (Option CampaignStatus) :=
  Run.query fun store => (store.campaign? id).map Campaign.status

/-- The targets that a campaign has reached on any channel. -/
def messagedIn (store : Store α) (id : Int) (target : String) : List Int :=
  (store.messages.filter fun message =>
    message.campaign == id && message.target == target && message.status.isSuccess).map
      Message.targetId

/-- Whether a campaign is to run at a time, run windows aside. -/
def isDue (now : Moment) (campaign : Campaign α) : Bool :=
  let hasCome := fun time : Option Moment => time.all fun time => decide (time ≤ now)
  (campaign.isOneTime && campaign.status == .scheduled && hasCome campaign.scheduledAt) ||
    (campaign.isAutomated && campaign.status == .active && hasCome campaign.nextRunAt &&
      !campaign.hasEnded now)

/-- The campaigns that are to run at a time, those that run once first. -/
def due (now : Moment) : Run σ α (List (Campaign α)) :=
  Run.query fun store =>
    let due := store.campaigns.filter (isDue now)
    (due.filter Campaign.isOneTime) ++ (due.filter Campaign.isAutomated)

/-- The active automated campaigns whose end date has come. -/
def ended (now : Moment) : Run σ α (List (Campaign α)) :=
  Run.query fun store => store.campaigns.filter fun campaign =>
    campaign.isAutomated && campaign.status == .active && campaign.hasEnded now

/-! ## Conditional writes -/

/-- Change a campaign if its status allows it, and tell whether it did. -/
def transition (id : Int) (allowed : CampaignStatus → Bool) (change : Campaign α → Campaign α) :
    Run σ α Bool := do
  let now ← Run.clock
  Run.commit fun store => do
    let id ← Cell.fitted id
    let happens := (store.campaign? id).any fun campaign => allowed campaign.status
    return (happens, store.updateCampaign id (fun campaign => allowed campaign.status)
      fun campaign => { change campaign with updatedAt := now })

/-- Make the row of a new campaign. -/
def create [Amount α] (tenant : String) (draft : Draft) : Run σ α (Campaign α) := do
  if draft.filter.isTooDeep then throw .overnested
  let now ← Run.clock
  Run.commit fun store => do
    let _ ← Cell.fitted draft.cooldownDays
    let _ ← Cell.fitted (draft.checkMinutes.getD 0)
    let id := nextId (store.campaigns.map Campaign.id)
    let campaign := Campaign.ofDraft id tenant now draft
    return (campaign, { store with campaigns := store.campaigns ++ [campaign] })

/-- Claim a campaign for a pass. -/
def begin (id : Int) : Run σ α (Option (Campaign α)) := do
  let now ← Run.clock
  let claimed ← transition id CampaignStatus.isRunnable fun campaign =>
    { campaign with
      status := .sending, startedAt := campaign.startedAt.or (some now), pauseReason := none }
  if claimed then get? id none
  else
    let status ← status? id
    throw (.invalidState id (status.map CampaignStatus.name) none)

/-- Leave the sending state, and tell whether the campaign was still in it. -/
def finish (id : Int) (status : CampaignStatus) (change : Campaign α → Campaign α) :
    Run σ α Bool :=
  transition id (· == .sending) fun campaign => { change campaign with status }

/-- Complete an active campaign at its end date. -/
def expire (id : Int) (now : Moment) : Run σ α Bool :=
  transition id (· == .active) fun campaign =>
    { campaign with status := .completed, completedAt := some now, nextRunAt := none }

/-- The most characters of a reason that are kept. -/
def reasonLength : Nat := 2000

/-- Record that a pass has failed. -/
def markFailed (id : Int) (reason : String) : Run σ α Bool := do
  let now ← Run.clock
  transition id (· == .sending) fun campaign =>
    { campaign with
      status := .failed, failureReason := some (Provider.cutText reasonLength reason)
      completedAt := some now }

/-- The tables with a tally added to the aggregates of a campaign. -/
def applyIn [Amount α] (id : Int) (tally : Tally) (targetCount : Option Cell) (now : Moment)
    (store : Store α) : Except Failure (Unit × Store α) := do
  let id ← Cell.fitted id
  let campaigns ← store.campaigns.mapM fun campaign =>
    if campaign.id == id then do
      let sms ← tally.sms.addTo campaign.sms
      let email ← tally.email.addTo campaign.email
      return { campaign with
        sms, email, targetCount := targetCount.getD campaign.targetCount, updatedAt := now }
    else return campaign
  return ((), { store with campaigns })

/-- Add a tally to the aggregates of a campaign, and tell whether there was anything to write. -/
def apply [Amount α] (id : Int) (tally : Tally) (targetCount : Option Cell) : Run σ α Bool := do
  if tally.isEmpty && targetCount.isNone then return false
  let now ← Run.clock
  Run.commit (applyIn id tally targetCount now)
  return true

/-! ## Operators -/

/-- The campaign after an operator's action, or why the action is not possible. -/
def require (id : Int) (changed : Bool) (action : String) : Run σ α (Campaign α) := do
  let status ← status? id
  let refusal : Failure :=
    let name := (status.map CampaignStatus.name)
    .invalidState id name
      (some s!"Cannot {action} campaign in status: {(Value.ofTextOption name).inSentence}")
  if changed then
    match ← get? id none with
    | some campaign => return campaign
    | none => throw refusal
  else throw refusal

/-- Schedule a draft, for now unless another time is given. -/
def schedule (id : Int) (time : Option Moment) : Run σ α (Campaign α) := do
  let now ← Run.clock
  let changed ← transition id (· == .draft) fun campaign =>
    { campaign with status := .scheduled, scheduledAt := some (time.getD now) }
  require id changed "schedule"

/-- Activate an automated campaign: its first run is the next time its window is open. -/
def activate (zone : Zone) (id : Int) : Run σ α (Campaign α) := do
  match ← get? id none with
  | none => throw (.invalidState id none (some "Only automated campaigns can be activated"))
  | some campaign =>
    if !campaign.isAutomated then
      throw (.invalidState id (some campaign.status.name)
        (some "Only automated campaigns can be activated"))
    let nextRun ← Run.pure? (campaign.window.nextOpen zone (← Run.clock))
    let changed ← transition id (fun status => status == .draft || status == .paused)
      fun campaign =>
        { campaign with status := .active, nextRunAt := some nextRun, pauseReason := none }
    require id changed "activate"

/-- Pause a campaign that is waiting for its next pass. -/
def pause (id : Int) (reason : Option String) : Run σ α (Campaign α) := do
  let changed ← transition id (fun status => status == .scheduled || status == .active)
    fun campaign =>
      { campaign with status := .paused, pauseReason := reason, nextRunAt := none }
  require id changed "pause"

/-- Resume a paused campaign: an automated one is activated, another one scheduled. -/
def resume (zone : Zone) (id : Int) : Run σ α (Campaign α) := do
  let campaign? ← get? id none
  if campaign?.any Campaign.isAutomated then activate zone id
  else
    let changed ← transition id (· == .paused) fun campaign =>
      { campaign with status := .scheduled, pauseReason := none }
    require id changed "resume"

/-- Cancel a campaign that is not over; a running pass stops at its next target. -/
def cancel (id : Int) : Run σ α (Campaign α) := do
  let now ← Run.clock
  let changed ← transition id (fun status => !status.isTerminal) fun campaign =>
    { campaign with status := .cancelled, nextRunAt := none, completedAt := some now }
  require id changed "cancel"

end Herald.Lifecycle
