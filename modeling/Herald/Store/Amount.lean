import Herald.Number.Arithmetic
import Herald.Number.Written

/-! # Amounts of money in columns

A decimal that is stored becomes whatever its column keeps. The store is written for any kind of
amount that can be made from a decimal, added, subtracted, compared and read at a number of places;
the database keeps doubles. An operation without a value that a column can hold gives none.
-/

namespace Herald

/-- How a column keeps amounts of money. -/
class Amount (α : Type) where
  zero : α
  ofDecimal? : Decimal → Option α
  add? : α → α → Option α
  sub? : α → α → Option α
  /-- Whether an amount is at least another one. -/
  covers : α → α → Bool
  /-- An amount read at a number of places after the point. -/
  read : Nat → α → Decimal

namespace Binary64

/-- A double as a column keeps it: there is one zero, and no place for what is not a number. -/
def column? : Binary64 → Option Binary64
  | .nan => none
  | .infinite negative => some (.infinite negative)
  | .finite negative units => some (if units = 0 then .zero else .finite negative units)

/-- A double read at a number of places. -/
def readPlaces (places : Nat) : Binary64 → Decimal
  | .nan => .nan false false 0
  | .infinite negative => .infinite negative
  | .finite negative units => .finite negative (scaledUnits places units) (-(places : Int))

end Binary64

instance : Amount Binary64 where
  zero := .zero
  ofDecimal? number := (Number.nearestDouble number).column?
  add? a b := (a.add b).column?
  sub? a b := (a.sub b).column?
  covers a b := b.le a
  read := Binary64.readPlaces

/-- Places of a price. -/
def pricePlaces : Nat := 2

/-- Places of a cost that a provider reports. -/
def providerPlaces : Nat := 4

end Herald
