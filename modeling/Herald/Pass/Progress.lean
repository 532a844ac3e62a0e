import Herald.Pass.Send
import Herald.Target.Stream
import Herald.Ledger.Cooldown
import Herald.Campaign.Lifecycle

/-! # The targets of a pass

A pass visits the matching targets of its campaign and sends each one that is not excluded a message
on every channel it can be reached on. It stops before the next target when the campaign has been
cancelled, and in the middle of a target when the balance does not cover the next message. A target
that got any message is recorded in the cooldown ledger.
-/

namespace Herald

/-- Why a pass stopped before its last target. -/
inductive Stopped
  | cancelled
  | outOfBalance
  deriving DecidableEq

/-- What a pass has done so far. -/
structure Progress where
  eligible : Nat
  skipped : Nat
  tally : Tally
  stopped : Option Stopped
  deriving DecidableEq

def Progress.start : Progress := ⟨0, 0, .empty, none⟩

/-- The reason with which a campaign is paused when its tenant cannot pay. -/
def outOfBalanceReason : String := "insufficient_balance"

namespace Pass

variable {σ α : Type} [Amount α]

/-- How the messages to one target have ended. -/
inductive Served
  | fully (delivered : Bool)
  | outOfBalance (delivered : Bool)
  | aborted (failure : Failure)

/-- Send a target its messages, one channel after the other. -/
def serve (engine : Engine σ α) (campaign : Campaign α) (isTest : Bool) (target : TargetRecord) :
    List Channel → Tally → Bool → Steady σ α (Tally × Served)
  | [], tally, delivered => return (tally, .fully delivered)
  | channel :: rest, tally, delivered => do
    match ← (Send.message engine campaign isTest target channel).run with
    | .error (.insufficientBalance _ _) => return (tally, .outOfBalance delivered)
    | .error failure => return (tally, .aborted failure)
    | .ok sent =>
      match tally.record channel sent with
      | .error failure => return (tally, .aborted failure)
      | .ok tally => serve engine campaign isTest target rest tally (sent.isSuccess || delivered)

/-- Record a target that got a message. -/
def recordIf (delivered : Bool) (campaign : Campaign α) (target : TargetRecord) : Run σ α Unit :=
  if delivered then CooldownLedger.record campaign.id campaign.target target.id campaign.tenant
  else return ()

/-- Go on after the messages to one target. -/
def afterTarget (campaign : Campaign α) (target : TargetRecord) (progress : Progress) :
    Served → Steady σ α (Visit Progress)
  | .aborted failure => return .giveUp progress failure
  | .fully delivered => do
    match ← (recordIf delivered campaign target).run with
    | .ok _ => return .next progress
    | .error failure => return .giveUp progress failure
  | .outOfBalance delivered => do
    match ← (recordIf delivered campaign target).run with
    | .ok _ => return .stop { progress with stopped := some .outOfBalance }
    | .error failure => return .giveUp progress failure

/-- Visit one matching target. -/
def visit (engine : Engine σ α) (campaign : Campaign α) (isTest : Bool) (excluded : List Int)
    (progress : Progress) (target : TargetRecord) : Steady σ α (Visit Progress) := do
  match ← (Lifecycle.status? campaign.id : Run σ α (Option CampaignStatus)).run with
  | .error failure => return .giveUp progress failure
  | .ok status =>
    if status == some .cancelled then
      return .stop { progress with stopped := some .cancelled }
    else if excluded.contains target.id then
      return .next { progress with skipped := progress.skipped + 1 }
    else
      let channels := channelsFor campaign.reach target
      if channels.isEmpty then return .next progress
      else
        let progress := { progress with eligible := progress.eligible + 1 }
        let (tally, served) ←
          serve engine campaign isTest target channels progress.tally false
        afterTarget campaign target { progress with tally } served

/-- The targets that a pass leaves out: those in cooldown, and for a campaign that does not repeat
every one it has reached before. -/
def excludedTargets (campaign : Campaign α) : Run σ α (List Int) := do
  let cooled ←
    CooldownLedger.activeTargets campaign.id campaign.target campaign.cooldownDays none
  if campaign.isAutomated then return cooled
  let messaged ← Run.query fun store => Lifecycle.messagedIn store campaign.id campaign.target
  return cooled ++ messaged

end Pass

end Herald
