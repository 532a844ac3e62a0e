import Herald.Attribute.Basic
import Herald.Email
import Herald.Store.Cell

/-! # Targets

A target is a row of its tenant: contacts, columns of its kind, and a map of data. Filters and
templates see it as one attribute map, the data first and the built-in columns after it. A service
also knows how many days are left until it expires.
-/

namespace Herald

/-- A stored target. The last three columns are those of services. -/
structure Target where
  id : Int
  tenant : String
  externalId : Option String
  name : Option String
  phone : Option String
  email : Option String
  data : Fields
  createdAt : Moment
  updatedAt : Moment
  customer : Option Cell
  expiryAt : Option Moment
  status : Option String

/-- A target as a pass sees it. -/
structure TargetRecord where
  id : Int
  kind : TargetKind
  phone : Option String
  email : Option String
  attributes : Fields

namespace Target

/-- Days from a day to the expiry of a service. -/
def daysUntilExpiry (target : Target) (today : Date) : Option Int :=
  target.expiryAt.map fun moment => (moment.date.day : Int) - today.day

def ofMomentOption : Option Moment → Value
  | some moment => .moment moment
  | none => .null

def ofIntOption : Option Int → Value
  | some number => .int number
  | none => .null

/-- The built-in columns of a target. -/
def builtinFields (kind : TargetKind) (target : Target) (today : Date) : Fields :=
  let common := [("id", .int target.id), ("external_id", .ofTextOption target.externalId),
    ("name", .ofTextOption target.name), ("phone", .ofTextOption target.phone),
    ("email", .ofTextOption target.email), ("created_at", .moment target.createdAt),
    ("updated_at", .moment target.updatedAt)]
  match kind with
  | .customer => common
  | .service => common ++ [("expiry_at", ofMomentOption target.expiryAt),
      ("status", .ofTextOption target.status),
      ("days_until_expiry", ofIntOption (target.daysUntilExpiry today))]

/-- The attribute map of a target on a day. -/
def attributes (kind : TargetKind) (target : Target) (today : Date) : Fields :=
  target.data.putAll (builtinFields kind target today)

/-- A target as a pass sees it on a day. -/
def record (kind : TargetKind) (target : Target) (today : Date) : TargetRecord :=
  ⟨target.id, kind, target.phone, target.email, attributes kind target today⟩

end Target

namespace TargetRecord

/-- Whether a target can be reached by text message. -/
def hasPhone (target : TargetRecord) : Bool := target.phone.any Text.isFilled

/-- Whether a target can be reached by e-mail. -/
def hasEmail (target : TargetRecord) : Bool := target.email.any Email.isAddress

end TargetRecord

end Herald
