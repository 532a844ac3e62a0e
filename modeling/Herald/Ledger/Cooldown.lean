import Herald.World

/-! # Cooldowns

When a campaign last reached a target, one row for each pair. A pair is in cooldown while that was
at most the campaign's number of cooldown days ago. Recording moves the time of a known pair
forward and keeps the rest of its row.
-/

namespace Herald.CooldownLedger

variable {σ α : Type}

/-- Whether a row is about a pair. -/
def isFor (campaign : Int) (target : String) (targetId : Int) (row : Cooldown) : Bool :=
  row.campaign == campaign && row.target == target && row.targetId == targetId

/-- The time a number of days ago. -/
def windowStart (now : Moment) (days : Cell) : Except Failure Moment := do
  let micros ← days.micros .days
  (now.earlier micros).mapError .outOfRange

/-- Whether a pair was reached at a time or later. -/
def isActiveIn (store : Store α) (campaign : Int) (target : String) (targetId : Int)
    (start : Moment) : Bool :=
  store.cooldowns.any fun row =>
    isFor campaign target targetId row && decide (start ≤ row.sentAt)

/-- The targets that a campaign reached at a time or later. -/
def activeIn (store : Store α) (campaign : Int) (target : String) (start : Moment) : List Int :=
  (store.cooldowns.filter fun row =>
    row.campaign == campaign && row.target == target && decide (start ≤ row.sentAt)).map
      Cooldown.targetId

/-- The tables with a pair recorded. -/
def recordIn (campaign : Int) (target : String) (targetId : Int) (tenant : String) (now : Moment)
    (store : Store α) : Store α :=
  if store.cooldowns.any (isFor campaign target targetId) then
    { store with
      cooldowns := store.cooldowns.map fun row =>
        if isFor campaign target targetId row then { row with sentAt := now } else row }
  else
    let row : Cooldown :=
      ⟨nextId (store.cooldowns.map Cooldown.id), tenant, campaign, target, targetId, now, now⟩
    { store with cooldowns := store.cooldowns ++ [row] }

/-- The tables without the rows before a time, and how many those were. -/
def cleanupIn (start : Moment) (store : Store α) : Nat × Store α :=
  let kept := store.cooldowns.filter fun row => !decide (row.sentAt < start)
  (store.cooldowns.length - kept.length, { store with cooldowns := kept })

/-! ## Actions -/

/-- Whether a pair is in cooldown. -/
def isInCooldown (campaign : Int) (target : String) (targetId : Int) (days : Cell) :
    Run σ α Bool := do
  if !(← Run.pure? days.isPositive) then return false
  let start ← Run.pure? (windowStart (← Run.clock) days)
  Run.consult fun store => do
    return isActiveIn store (← Cell.fitted campaign) target (← Cell.fitted targetId) start

/-- The targets of a campaign in cooldown, perhaps only those of a list. -/
def activeTargets (campaign : Int) (target : String) (days : Cell) (among : Option (List Int)) :
    Run σ α (List Int) := do
  if !(← Run.pure? days.isPositive) then return []
  let start ← Run.pure? (windowStart (← Run.clock) days)
  match among with
  | none => Run.consult fun store => do
    return activeIn store (← Cell.fitted campaign) target start
  | some ids =>
    if ids.isEmpty then return []
    Run.consult fun store => do
      let ids ← ids.mapM Cell.fitted
      return (activeIn store (← Cell.fitted campaign) target start).filter ids.contains

/-- Record that a campaign has just reached a target. -/
def record (campaign : Int) (target : String) (targetId : Int) (tenant : String) :
    Run σ α Unit := do
  let now ← Run.clock
  Run.commit fun store => do
    return ((), recordIn (← Cell.fitted campaign) target (← Cell.fitted targetId) tenant now store)

/-- Delete the rows that are older than a number of days, and count them. -/
def cleanup (days : Cell) : Run σ α Nat := do
  let start ← Run.pure? (windowStart (← Run.clock) days)
  Run.commit fun store => .ok (cleanupIn start store)

end Herald.CooldownLedger
