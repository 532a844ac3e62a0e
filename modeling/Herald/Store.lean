import Herald.Attribute.Definition
import Herald.Target.Basic
import Herald.Campaign.Basic
import Herald.Message

/-! # The store

The tables of the engine. Rows of a table stand in the order of their ids; a new row gets the id
after the largest one. Nothing can be read or written before the tables have been created.
-/

namespace Herald

/-- When a campaign last reached a target. -/
structure Cooldown where
  id : Int
  tenant : String
  campaign : Int
  target : String
  targetId : Int
  sentAt : Moment
  createdAt : Moment
  deriving DecidableEq

/-- What a tenant has left to spend. -/
structure Balance (α : Type) where
  id : Int
  tenant : String
  amount : α

/-- The tables. -/
structure Store (α : Type) where
  created : Bool
  definitions : List Definition
  customers : List Target
  services : List Target
  campaigns : List (Campaign α)
  messages : List (Message α)
  cooldowns : List Cooldown
  balances : List (Balance α)

/-- The id of the next row of a table: one more than the largest id, or one in an empty table. -/
def nextId : List Int → Int
  | [] => 1
  | id :: rest => rest.foldl max id + 1

/-- Rows in the order of their ids with another one put in its place. -/
def insertById {ρ : Type} (idOf : ρ → Int) (row : ρ) (rows : List ρ) : List ρ :=
  let before := fun other => decide (idOf other < idOf row)
  rows.takeWhile before ++ row :: rows.dropWhile before

namespace Store

variable {α : Type}

/-- A database without tables. -/
def blank : Store α := ⟨false, [], [], [], [], [], [], []⟩

/-- A database with empty tables. -/
def empty : Store α := { blank with created := true }

/-- The targets of a kind. -/
def targets (store : Store α) : TargetKind → List Target
  | .customer => store.customers
  | .service => store.services

/-- Replace the targets of a kind. -/
def withTargets (store : Store α) (kind : TargetKind) (targets : List Target) : Store α :=
  match kind with
  | .customer => { store with customers := targets }
  | .service => { store with services := targets }

def campaign? (store : Store α) (id : Int) : Option (Campaign α) :=
  store.campaigns.find? fun campaign => campaign.id == id

/-- Change the campaign of an id, if the condition holds of it. -/
def updateCampaign (store : Store α) (id : Int) (condition : Campaign α → Bool)
    (change : Campaign α → Campaign α) : Store α :=
  { store with
    campaigns := store.campaigns.map fun campaign =>
      if campaign.id == id && condition campaign then change campaign else campaign }

end Store

end Herald
