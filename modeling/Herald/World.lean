import Herald.Store
import Herald.Provider
import Herald.Settings

/-! # Running actions

An action works on a world: the store, the clock, the journal of passes, and whatever is outside
the engine. It ends with a value or a failure, and what it wrote before a failure stays written,
because every write is committed on its own.
-/

namespace Herald

/-- What actions work on. -/
structure World (σ α : Type) where
  store : Store α
  now : Moment
  journal : List String
  outside : σ

/-- An action with a value or a failure. -/
abbrev Run (σ α β : Type) := ExceptT Failure (StateM (World σ α)) β

/-- An action that always has a value. -/
abbrev Steady (σ α β : Type) := StateM (World σ α) β

namespace Run

variable {σ α β : Type}

/-- The time now. -/
def clock : Run σ α Moment := do return (← get).now

/-- Read from the store. -/
def query (read : Store α → β) : Run σ α β := do
  let world ← get
  if world.store.created then return read world.store else throw .noDatabase

/-- Read from the store what may fail to be read. -/
def consult (read : Store α → Except Failure β) : Run σ α β := do
  let world ← get
  if world.store.created then
    match read world.store with
    | .ok found => return found
    | .error failure => throw failure
  else throw .noDatabase

/-- Write to the store and commit, or fail without writing. -/
def commit (write : Store α → Except Failure (β × Store α)) : Run σ α β := do
  let world ← get
  if world.store.created then
    match write world.store with
    | .ok (value, store) =>
      set { world with store }
      return value
    | .error failure => throw failure
  else throw .noDatabase

/-- A value or a failure that does not depend on the world. -/
def pure? (found : Except Failure β) : Run σ α β :=
  match found with
  | .ok value => return value
  | .error failure => throw failure

/-- The form of an action, or the failure of its problems. -/
def checked (form : Checked β) : Run σ α β :=
  match form with
  | .valid value => return value
  | .refused problems => throw (.invalidForm problems)

/-- The value of an action, or its failure as a value. -/
def attempt (action : Run σ α β) : Run σ α (Except Failure β) := ExceptT.lift action.run

/-- Add a line to the journal of passes. -/
def record (line : String) : Run σ α Unit :=
  modify fun world => { world with journal := world.journal ++ [line] }

end Run

/-- Create the tables that are missing. -/
def Store.create {σ α : Type} : Run σ α Unit :=
  modify fun world => { world with store := { world.store with created := true } }

/-- What an engine works with beside the world. -/
structure Engine (σ α : Type) where
  settings : Settings
  sms : Provider
  email : Provider
  /-- How many targets are read at a time; all of them if it is below zero. -/
  batchSize : Int
  /-- Ask a provider. Anything may happen meanwhile, also to the store. -/
  exchange : Request → Run σ α Reply
  /-- What happens right before a campaign leaves the sending state. -/
  beforeFinish : Run σ α Unit

/-- The provider of a channel. -/
def Engine.provider {σ α : Type} (engine : Engine σ α) : Channel → Provider
  | .sms => engine.sms
  | .email => engine.email

end Herald
