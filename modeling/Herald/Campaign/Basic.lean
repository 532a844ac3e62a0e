import Herald.Campaign.Draft
import Herald.Store.Amount

/-! # Campaigns

A stored campaign: what it sends to whom, when it runs, where it stands, and what its passes have
added up. The aggregates are kept for each channel.
-/

namespace Herald

/-- Where a campaign stands. A stored word that is none of the known ones allows nothing. -/
inductive CampaignStatus
  | draft
  | scheduled
  | active
  | sending
  | paused
  | completed
  | failed
  | cancelled
  | other (word : String)
  deriving DecidableEq

namespace CampaignStatus

def known : List CampaignStatus :=
  [.draft, .scheduled, .active, .sending, .paused, .completed, .failed, .cancelled]

def name : CampaignStatus → String
  | .draft => "draft"
  | .scheduled => "scheduled"
  | .active => "active"
  | .sending => "sending"
  | .paused => "paused"
  | .completed => "completed"
  | .failed => "failed"
  | .cancelled => "cancelled"
  | .other word => word

def ofStored (word : String) : CampaignStatus :=
  (known.find? fun status => status.name == word).getD (.other word)

/-- Whether a pass may claim the campaign. -/
def isRunnable : CampaignStatus → Bool
  | .draft => true
  | .scheduled => true
  | .active => true
  | _ => false

/-- Whether the campaign is over. -/
def isTerminal : CampaignStatus → Bool
  | .completed => true
  | .cancelled => true
  | .failed => true
  | _ => false

end CampaignStatus

/-- What the passes of a campaign have added up on one channel. -/
structure Aggregates (α : Type) where
  sent : Cell
  delivered : Cell
  failed : Cell
  cost : α

def Aggregates.none {α : Type} [Amount α] : Aggregates α :=
  ⟨.int 0, .int 0, .int 0, Amount.zero⟩

/-- A stored campaign. -/
structure Campaign (α : Type) where
  id : Int
  tenant : String
  name : String
  /-- The stored word for the kind of target. -/
  target : String
  reach : Reach
  recurrence : Recurrence
  content : Content
  filter : Value
  status : CampaignStatus
  isTest : Bool
  pauseReason : Option String
  failureReason : Option String
  createdBy : Option String
  scheduledAt : Option Moment
  checkMinutes : Option Cell
  cooldownDays : Cell
  window : RunWindow
  nextRunAt : Option Moment
  lastRunAt : Option Moment
  endsAt : Option Moment
  runCount : Cell
  startedAt : Option Moment
  completedAt : Option Moment
  targetCount : Cell
  sms : Aggregates α
  email : Aggregates α
  createdAt : Moment
  updatedAt : Moment

namespace Campaign

variable {α : Type}

def isAutomated (campaign : Campaign α) : Bool := campaign.recurrence == .automated

def isOneTime (campaign : Campaign α) : Bool := campaign.recurrence == .oneTime

/-- Whether the end date has come. -/
def hasEnded (campaign : Campaign α) (now : Moment) : Bool :=
  campaign.endsAt.any fun ends => decide (ends ≤ now)

/-- Messages that went out on any channel. -/
def totalSent (campaign : Campaign α) : Except Failure Cell :=
  campaign.sms.sent.sum campaign.email.sent

/-- Messages that did not go out on any channel. -/
def totalFailed (campaign : Campaign α) : Except Failure Cell :=
  campaign.sms.failed.sum campaign.email.failed

/-- The row of a new campaign. -/
def ofDraft [Amount α] (id : Int) (tenant : String) (now : Moment) (draft : Draft) :
    Campaign α where
  id := id
  tenant := tenant
  name := draft.name
  target := draft.target.name
  reach := draft.reach
  recurrence := draft.recurrence
  content := draft.content
  filter := draft.filter.toValue
  status := .draft
  isTest := draft.isTest
  pauseReason := none
  failureReason := none
  createdBy := draft.createdBy
  scheduledAt := draft.scheduledAt.map Stamp.wall
  checkMinutes := draft.checkMinutes.map .int
  cooldownDays := .int draft.cooldownDays
  window := draft.window
  nextRunAt := none
  lastRunAt := none
  endsAt := draft.endsAt.map Stamp.wall
  runCount := .int 0
  startedAt := none
  completedAt := none
  targetCount := .int 0
  sms := .none
  email := .none
  createdAt := now
  updatedAt := now

end Campaign

end Herald
