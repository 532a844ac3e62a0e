import Herald.Pass.Execute

/-! # The scheduler

A tick completes the campaigns whose end date has come and runs one pass of every campaign that is
due. An automated campaign is due only while its run window is open. A pass that fails does not
stop the others.
-/

namespace Herald.Scheduler

variable {σ α : Type} [Amount α]

/-- Whether the run window of a campaign lets it run; a campaign that does not repeat has none. -/
def isOpen (zone : Zone) (now : Moment) (campaign : Campaign α) : Except Failure Bool :=
  if campaign.isAutomated then campaign.window.isOpenAt zone now else .ok true

/-- The campaigns whose run windows are open. -/
def openOnes (zone : Zone) (now : Moment) : List (Campaign α) → Except Failure (List (Campaign α))
  | [] => .ok []
  | campaign :: rest => do
    let isOpen ← isOpen zone now campaign
    let rest ← openOnes zone now rest
    return if isOpen then campaign :: rest else rest

/-- The campaigns to run at a time. -/
def due (engine : Engine σ α) (now : Moment) : Run σ α (List (Campaign α)) := do
  Run.pure? (openOnes engine.settings.zone now (← Lifecycle.due now))

/-- Complete campaigns, and count those that were still active. -/
def expireAll (now : Moment) : List (Campaign α) → Run σ α Nat
  | [] => return 0
  | campaign :: rest => do
    let expired ← Lifecycle.expire campaign.id now
    let others ← expireAll now rest
    return others + if expired then 1 else 0

/-- Complete the active automated campaigns whose end date has come. -/
def expireEnded (now : Moment) : Run σ α Nat := do
  expireAll now (← Lifecycle.ended now)

/-- What became of one campaign of a tick. -/
structure Attempt where
  campaign : Int
  result : Except Failure PassResult

/-- Run one pass of each campaign. -/
def runAll (engine : Engine σ α) : List (Campaign α) → Steady σ α (List Attempt)
  | [] => return []
  | campaign :: rest => do
    let result ← (Pass.execute engine campaign.id).run
    return ⟨campaign.id, result⟩ :: (← runAll engine rest)

/-- One tick. -/
def tick (engine : Engine σ α) : Run σ α (List Attempt) := do
  let now ← Run.clock
  let _ ← expireEnded now
  let campaigns ← due engine now
  runAll engine campaigns

end Herald.Scheduler
