import Herald.Number.Binary64

/-! # Numbers of 64 significant bits

Texts and doubles are turned into each other by multiplying and dividing by powers of ten, and the
numbers on the way have a few more bits than a double. Each step is the exact result rounded to 64
significant bits, a tie to the even one; the exponent has no bounds.
-/

namespace Herald

open Number

/-- The number `significand * 2 ^ exponent`, which is not below zero. -/
structure Extended where
  significand : Nat
  exponent : Int
  deriving DecidableEq

namespace Extended

/-- Significant bits of a result. -/
def precision : Nat := 64

/-- The number nearest to `numerator / denominator * 2 ^ exponent`. The quotient is first brought to
at least as many bits as the result has. -/
def ofQuotient (numerator denominator : Nat) (exponent : Int) : Extended :=
  let excess : Int := numerator.log2 - denominator.log2 - precision
  let numerator := numerator * twoPow (-excess).toNat
  let denominator := denominator * twoPow excess.toNat
  let extra := (numerator / denominator).log2 + 1 - precision
  ⟨roundHalfEven numerator (denominator * twoPow extra), exponent + excess + extra⟩

def ofNat (number : Nat) : Extended := ofQuotient number 1 0

/-- A finite magnitude in the units of a double. -/
def ofUnits (units : Nat) : Extended := ⟨units, -Binary64.unitBits⟩

/-- The double nearest to `coefficient * 10 ^ exponent`; zero instead of an infinite one. -/
def ofDouble (coefficient : Nat) (exponent : Int) : Extended :=
  match Binary64.ofScientific false coefficient exponent with
  | .finite _ units => ofUnits units
  | _ => ⟨0, 0⟩

/-- The double nearest to a number, with a sign. -/
def toDouble (negative : Bool) (number : Extended) : Binary64 :=
  let shift := number.exponent + Binary64.unitBits
  Binary64.ofUnits negative (number.significand * twoPow shift.toNat) (twoPow (-shift).toNat)

/-- The significand of a number when the exponent is lowered to another one. -/
def significandAt (number : Extended) (exponent : Int) : Nat :=
  number.significand * twoPow (number.exponent - exponent).toNat

/-- Whether the first number is at most the second. -/
def le (a b : Extended) : Bool :=
  let exponent := min a.exponent b.exponent
  decide (a.significandAt exponent ≤ b.significandAt exponent)

def lt (a b : Extended) : Bool := !b.le a

def add (a b : Extended) : Extended :=
  let exponent := min a.exponent b.exponent
  ofQuotient (a.significandAt exponent + b.significandAt exponent) 1 exponent

def mul (a b : Extended) : Extended :=
  ofQuotient (a.significand * b.significand) 1 (a.exponent + b.exponent)

/-- The quotient by a number that is not zero. -/
def div (a b : Extended) : Extended :=
  ofQuotient a.significand b.significand (a.exponent - b.exponent)

/-- The whole part of a number, and what is left of it. -/
def split (number : Extended) : Nat × Extended :=
  let low := min number.exponent 0
  let one := twoPow (-low).toNat
  let significand := number.significandAt low
  (significand / one, ⟨significand % one, low⟩)

def one : Extended := ofNat 1

def ten : Extended := ofNat 10

/-- A power of ten below the 512th, as a product of repeated squares of ten. -/
def tenToThe (exponent : Nat) : Extended :=
  ((List.range 9).foldl (fun (power, square) place =>
    (if exponent.testBit place then power.mul square else power, square.mul square))
    (one, ten)).1

end Extended

end Herald
