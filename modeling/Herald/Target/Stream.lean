import Herald.World
import Herald.Segment.Predicate

/-! # Walking over matching targets

The targets of a tenant that match a predicate are visited in the order of their ids. They are read
in batches, each one completely before its first target is looked at, so that a visitor may write
to the store. A visitor carries what it has found; it may go on, stop, or give up with a failure,
and a target whose attributes cannot be compared ends the walk as well.
-/

namespace Herald

/-- What a visitor makes of a target. -/
inductive Visit (β : Type)
  | next (found : β)
  | stop (found : β)
  | giveUp (found : β) (failure : Failure)

/-- How far a walk has come. -/
inductive Walked (β : Type)
  | more (found : β) (visited : Nat)
  | done (found : β)
  | failed (found : β) (failure : Failure)

/-- What a walk goes over: the targets of a tenant and kind that match on a day. -/
structure Audience where
  tenant : String
  kind : TargetKind
  predicate : Predicate
  today : Date

namespace Audience

variable {σ α β : Type}

/-- Visit the matching ones of some targets. -/
def walkRecords (audience : Audience) (limit : Option Int)
    (visit : β → TargetRecord → Steady σ α (Visit β)) :
    List TargetRecord → β → Nat → Steady σ α (Walked β)
  | [], found, visited => return .more found visited
  | target :: rest, found, visited => do
    match audience.predicate.holds target.attributes audience.today with
    | .error refusal => return .failed found (.ofRefusal refusal)
    | .ok false => audience.walkRecords limit visit rest found visited
    | .ok true =>
      match ← visit found target with
      | .stop found => return .done found
      | .giveUp found failure => return .failed found failure
      | .next found =>
        if limit.any (decide <| · ≤ ((visited + 1 : Nat) : Int)) then return .done found
        else audience.walkRecords limit visit rest found (visited + 1)

/-- The targets of a tenant after an id. -/
def after (audience : Audience) (id : Int) (store : Store α) : List Target :=
  (store.targets audience.kind).filter fun target =>
    target.tenant == audience.tenant && id < target.id

/-- The next targets of a tenant after an id. -/
def batch (audience : Audience) (size : Int) (id : Int) (store : Store α) :
    Except Failure (List Target) := do
  let size ← Cell.fitted size
  let targets := audience.after id store
  return if size < 0 then targets else targets.take size.toNat

/-- Visit the matching targets after an id, batch by batch; `batches` bounds their number. -/
def walkAfter (audience : Audience) (size : Int) (limit : Option Int)
    (visit : β → TargetRecord → Steady σ α (Visit β)) :
    Nat → Int → β → Nat → Steady σ α (Walked β)
  | 0, _, found, _ => return .done found
  | batches + 1, after, found, visited => do
    match ← (Run.consult (audience.batch size after)).run with
    | .error failure => return .failed found failure
    | .ok targets =>
      match targets.getLast? with
      | none => return .done found
      | some last =>
        let records := targets.map fun target => target.record audience.kind audience.today
        match ← audience.walkRecords limit visit records found visited with
        | .more found visited =>
          audience.walkAfter size limit visit batches last.id found visited
        | ended => return ended

/-- Visit the matching targets, at most a limit of them. -/
def walk (audience : Audience) (size : Int) (limit : Option Int)
    (visit : β → TargetRecord → Steady σ α (Visit β)) (start : β) :
    Steady σ α (β × Option Failure) := do
  if limit.any (· ≤ 0) then return (start, none)
  let rows := ((← get).store.targets audience.kind).length
  match ← audience.walkAfter size limit visit (rows + 1) 0 start 0 with
  | .more found _ => return (found, none)
  | .done found => return (found, none)
  | .failed found failure => return (found, some failure)

/-- Fold over the matching targets. -/
def fold (audience : Audience) (size : Int) (limit : Option Int) (step : β → TargetRecord → β)
    (start : β) : Run σ α β := do
  let walked : Steady σ α (β × Option Failure) :=
    audience.walk size limit (fun found target => return .next (step found target)) start
  let (found, failure?) ← walked
  match failure? with
  | some failure => throw failure
  | none => return found

/-- The matching targets, at most a limit of them. -/
def matching (audience : Audience) (size : Int) (limit : Option Int) :
    Run σ α (List TargetRecord) :=
  audience.fold size limit (fun found target => found ++ [target]) []

/-- How many targets match. -/
def count (audience : Audience) (size : Int) : Run σ α Nat :=
  audience.fold size none (fun count _ => count + 1) 0

end Audience

/-- The targets that a filter selects for a tenant. -/
def audienceOf {σ α : Type} (tenant : String) (predicate : Predicate) : Run σ α Audience := do
  return ⟨tenant, predicate.target, predicate, (← Run.clock).date⟩

end Herald
