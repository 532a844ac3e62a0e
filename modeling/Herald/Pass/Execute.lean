import Herald.Pass.Progress
import Herald.Attribute.Registry

/-! # Passes

A pass compiles the campaign's filter, claims the campaign, visits its targets, adds up what was
sent, and moves the campaign on: to completed, to active with a next run, to paused when the balance
ran out, or to failed when something unforeseen happened. A campaign that has been cancelled stays
so. Before the claim nothing is written.
-/

namespace Herald

/-- What a pass tells about itself. -/
structure PassResult where
  campaign : Int
  status : CampaignStatus
  targetCount : Cell
  eligible : Nat
  skipped : Nat
  tally : Tally
  isMock : Bool
  pauseReason : Option String
  nextRunAt : Option Moment

namespace PassResult

/-- The line of a pass in the journal. -/
def journalLine (result : PassResult) (tenant : String) : Except Failure String :=
  match result.tally.sms.cost.add result.tally.email.cost with
  | .error signal => .error (.ofSignal signal)
  | .ok cost =>
    let counts := s!"targets={result.targetCount.inSentence} eligible={result.eligible} " ++
      s!"cooldown={result.skipped} sms_sent={result.tally.sms.sent} " ++
      s!"sms_failed={result.tally.sms.failed} email_sent={result.tally.email.sent} " ++
      s!"email_failed={result.tally.email.failed}"
    let mock := (Value.bool result.isMock).inSentence
    .ok (s!"campaign={result.campaign} tenant={tenant} status={result.status.name} " ++
      s!"{counts} cost={cost.text} mock={mock}")

end PassResult

namespace Pass

variable {σ α : Type} [Amount α]

/-- The compiled filter of a campaign. -/
def compile (campaign : Campaign α) : Run σ α Predicate := do
  let schema ← Registry.load campaign.tenant campaign.target
  Run.pure? (Predicate.compileRaw schema campaign.filter)

/-- Whether a pass of the campaign only simulates its messages. -/
def isMock (settings : Settings) (campaign : Campaign α) : Bool :=
  settings.testMode || campaign.isTest

/-- The size of the audience that a campaign without repetition has fixed in an earlier pass. -/
def knownCount (campaign : Campaign α) : Option Cell :=
  if campaign.isAutomated || campaign.targetCount.isZero then none else some campaign.targetCount

/-- The size of the audience. -/
def targetCount (engine : Engine σ α) (campaign : Campaign α) (audience : Audience) :
    Run σ α Cell :=
  match knownCount campaign with
  | some count => return count
  | none => do return .int (← audience.count engine.batchSize : Nat)

/-- The time of the next run of an automated campaign after a pass. -/
def nextRun (settings : Settings) (campaign : Campaign α) (now : Moment) :
    Except Failure Moment := do
  let standard : Cell := .int settings.checkMinutes
  let minutes := campaign.checkMinutes.getD standard
  let micros ← (if minutes.isZero then standard else minutes).micros .minutes
  let base ← (now.later micros).mapError .outOfRange
  campaign.window.nextOpen settings.zone base

/-- How a pass leaves the sending state. -/
structure Leaving where
  status : CampaignStatus
  pauseReason : Option String
  completedAt : Option Moment
  nextRunAt : Option Moment

/-- Where a campaign goes after a pass that was not cancelled. -/
def leaving (settings : Settings) (campaign : Campaign α) (outOfBalance : Bool) (now : Moment) :
    Except Failure Leaving :=
  if outOfBalance then .ok ⟨.paused, some outOfBalanceReason, none, none⟩
  else if !campaign.isAutomated || campaign.hasEnded now then .ok ⟨.completed, none, some now, none⟩
  else (nextRun settings campaign now).map fun next => ⟨.active, none, none, some next⟩

/-- A campaign's row after a pass. -/
def left (leaving : Leaving) (now : Moment) (campaign : Campaign α) : Campaign α :=
  { campaign with
    lastRunAt := some now
    runCount := campaign.runCount.plus 1
    pauseReason := leaving.pauseReason.or campaign.pauseReason
    completedAt := leaving.completedAt.or campaign.completedAt
    nextRunAt := leaving.nextRunAt }

/-- Move the campaign on after a pass. The result is where it stands then, and when it runs next. -/
def finish (engine : Engine σ α) (campaign : Campaign α) (stopped : Option Stopped) :
    Run σ α (Option CampaignStatus × Option Moment) := do
  let now ← Run.clock
  if stopped == some .cancelled then return (← Lifecycle.status? campaign.id, none)
  let leaving ← Run.pure?
    (leaving engine.settings campaign (stopped == some .outOfBalance) now)
  engine.beforeFinish
  if ← Lifecycle.finish campaign.id leaving.status (left leaving now) then
    return (some leaving.status, leaving.nextRunAt)
  else return (← Lifecycle.status? campaign.id, none)

/-- What a pass has done when it ends: its progress, the size of its audience if it came that far,
and whether its tally has been written. -/
structure Ledger where
  progress : Progress
  targetCount : Cell
  applied : Bool

/-- The targets that a pass leaves out, and how many it visits at most. -/
def excludedAndLimit (campaign : Campaign α) (count : Cell) :
    Run σ α (List Int × Option Int) := do
  let excluded ← excludedTargets campaign
  return (excluded, ← Run.pure? count.limit?)

/-- Walk over the audience, write the tally and move the campaign on. -/
def carryOut (engine : Engine σ α) (campaign : Campaign α) (predicate : Predicate)
    (isTest : Bool) :
    Steady σ α (Ledger × Except Failure (Option CampaignStatus × Option Moment)) := do
  let prepared : Run σ α (Audience × Cell) := do
    let audience ← audienceOf campaign.tenant predicate
    return (audience, ← targetCount engine campaign audience)
  match ← prepared.run with
  | .error failure => return (⟨.start, .int 0, false⟩, .error failure)
  | .ok (audience, count) =>
    match ← (excludedAndLimit campaign count).run with
    | .error failure => return (⟨.start, count, false⟩, .error failure)
    | .ok (excluded, limit) =>
      let (progress, failure?) ← audience.walk engine.batchSize limit
        (visit engine campaign isTest excluded) .start
      match failure? with
      | some failure => return (⟨progress, count, false⟩, .error failure)
      | none =>
        match ← (Lifecycle.apply campaign.id progress.tally (some count)).run with
        | .error failure => return (⟨progress, count, false⟩, .error failure)
        | .ok applied =>
          return (⟨progress, count, applied⟩,
            ← (finish engine campaign progress.stopped).run)

/-- The result of a pass. -/
def result (campaign : Campaign α) (isTest : Bool) (ledger : Ledger)
    (status : Option CampaignStatus) (pauseReason : Option String) (nextRunAt : Option Moment) :
    PassResult :=
  ⟨campaign.id, (status.filter (·.name != "")).getD .sending, ledger.targetCount,
    ledger.progress.eligible, ledger.progress.skipped, ledger.progress.tally, isTest, pauseReason,
    nextRunAt⟩

/-- Write the line of a pass into the journal. -/
def journal (campaign : Campaign α) (result : PassResult) : Run σ α Unit := do
  Run.record (← Run.pure? (result.journalLine campaign.tenant))

/-- Record that a pass has failed: what it did is still added up. -/
def fail (campaign : Campaign α) (isTest : Bool) (ledger : Ledger) (failure : Failure) :
    Run σ α Unit := do
  if !ledger.applied then
    let count := if ledger.targetCount.isZero then none else some ledger.targetCount
    let _ ← Lifecycle.apply campaign.id ledger.progress.tally count
  let _ ← Lifecycle.markFailed campaign.id failure.reason
  let status ← Lifecycle.status? campaign.id
  journal campaign (result campaign isTest ledger status none none)

/-- The campaign of an id, if a pass of it may begin. -/
def runnable (id : Int) : Run σ α (Campaign α) := do
  match ← Lifecycle.get? id none with
  | none => throw (.invalidState id none (some s!"Campaign {id} not found"))
  | some campaign =>
    if campaign.status.isRunnable then return campaign
    else throw (.invalidState id (some campaign.status.name) none)

/-- Run one pass of a campaign. -/
def execute (engine : Engine σ α) (id : Int) : Run σ α PassResult := do
  let campaign ← runnable id
  let predicate ← compile campaign
  let campaign := (← Lifecycle.begin id).getD campaign
  let isTest := isMock engine.settings campaign
  let (ledger, ended) ← carryOut engine campaign predicate isTest
  match ended with
  | .error failure =>
    fail campaign isTest ledger failure
    throw failure
  | .ok (status, nextRunAt) =>
    let pauseReason :=
      if ledger.progress.stopped == some .outOfBalance then some outOfBalanceReason else none
    let result := result campaign isTest ledger status pauseReason nextRunAt
    journal campaign result
    return result

end Pass

end Herald
