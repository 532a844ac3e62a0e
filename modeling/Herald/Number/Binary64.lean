import Herald.Number.Rounding
import Herald.Text.Digit

/-! # Double-precision numbers

A finite double is a sign and a whole number of the smallest unit, `2 ^ -1074`; every operation is
the exact result in that unit, rounded to the grid of representable magnitudes. Magnitudes below
`2 ^ 53` units are all representable, larger ones keep 53 significant bits, and a magnitude that
rounds to `2 ^ 1024` or more is infinite.
-/

namespace Herald

open Number Text

/-- A double-precision number, a finite one as a count of units of `2 ^ -1074`. -/
inductive Binary64
  | nan
  | infinite (negative : Bool)
  | finite (negative : Bool) (units : Nat)
  deriving DecidableEq

namespace Binary64

/-- The unit exponent: one is `2 ^ 1074` units. -/
def unitBits : Nat := 1074

/-- The first magnitude that is no longer finite, in units. -/
def overflowUnits : Nat := twoPow 2098

/-- The spacing of doubles at a magnitude of `units`, as a power of two in units. -/
def spacingBits (units : Nat) : Nat :=
  units.log2 + 1 - 53

/-- The representable magnitude nearest to `numerator / denominator` units. -/
def roundUnits (numerator denominator : Nat) : Nat :=
  let spacing := twoPow (spacingBits (numerator / denominator))
  roundHalfEven numerator (denominator * spacing) * spacing

/-- The double nearest to `numerator / denominator` units of the given sign. -/
def ofUnits (negative : Bool) (numerator denominator : Nat) : Binary64 :=
  let units := roundUnits numerator denominator
  if units < overflowUnits then .finite negative units else .infinite negative

def zero : Binary64 := .finite false 0

/-- The double nearest to an integer. -/
def ofInt (number : Int) : Binary64 :=
  ofUnits (number < 0) (number.natAbs * twoPow unitBits) 1

/-- The double nearest to `coefficient * 10 ^ exponent`. Exponents far outside the range of
doubles are settled without forming the power. -/
def ofScientific (negative : Bool) (coefficient : Nat) (exponent : Int) : Binary64 :=
  let magnitude := exponent + digitCount coefficient
  if coefficient = 0 then .finite negative 0
  else if 310 < magnitude then .infinite negative
  else if magnitude < -330 then .finite negative 0
  else if 0 ≤ exponent then
    ofUnits negative (coefficient * tenPow exponent.toNat * twoPow unitBits) 1
  else ofUnits negative (coefficient * twoPow unitBits) (tenPow exponent.natAbs)

/-- The signed count of units of a finite double. -/
def signedUnits (negative : Bool) (units : Nat) : Int :=
  if negative then -(units : Int) else units

/-- The double nearest to a signed count of units; an exact zero is positive. -/
def ofSignedUnits (units : Int) : Binary64 :=
  ofUnits (units < 0) units.natAbs 1

def neg : Binary64 → Binary64
  | .nan => .nan
  | .infinite negative => .infinite (!negative)
  | .finite negative units => .finite (!negative) units

/-- The correctly rounded sum. Opposite infinities have none. -/
def add : Binary64 → Binary64 → Binary64
  | .finite n a, .finite m b =>
    if a = 0 ∧ b = 0 then .finite (n && m) 0
    else ofSignedUnits (signedUnits n a + signedUnits m b)
  | .infinite n, .infinite m => if n = m then .infinite n else .nan
  | .infinite n, .finite _ _ => .infinite n
  | .finite _ _, .infinite m => .infinite m
  | _, _ => .nan

def sub (a b : Binary64) : Binary64 := a.add b.neg

/-- Whether the first number is at most the second; never with a NaN. -/
def le : Binary64 → Binary64 → Bool
  | .finite n a, .finite m b => signedUnits n a ≤ signedUnits m b
  | .infinite n, .infinite m => n || !m
  | .infinite n, .finite _ _ => n
  | .finite _ _, .infinite m => !m
  | _, _ => false

/-- Numeric equality: the two zeros are equal, and a NaN equals nothing. -/
def eq (a b : Binary64) : Bool := a.le b && b.le a

def lt (a b : Binary64) : Bool := a.le b && !b.le a

def isFinite : Binary64 → Bool
  | .finite _ _ => true
  | _ => false

/-- The integer that a finite double equals, if it is whole. -/
def toInt? : Binary64 → Option Int
  | .finite negative units =>
    if units % twoPow unitBits = 0 then some (signedUnits negative (units / twoPow unitBits))
    else none
  | _ => none

/-- A magnitude as a whole number and the units beyond it. -/
def splitWhole (units : Nat) : Nat × Nat := (units / twoPow unitBits, units % twoPow unitBits)

/-- The least integer that a double does not exceed. An infinity above all of them has none, and
neither has what is not a number; the one below them does not exceed zero. -/
def ceiling? : Binary64 → Option Int
  | .nan => none
  | .infinite negative => if negative then some 0 else none
  | .finite negative units =>
    let (whole, rest) := splitWhole units
    some (if negative then -(whole : Int) else if rest = 0 then whole else whole + 1)

/-! ## The shortest digits that read back -/

/-- The decimal exponent of a nonzero magnitude: it is at least this power of ten and below the
next one. -/
def decimalExponent (units : Nat) : Int :=
  (digitCount (units * tenPow 400 / twoPow unitBits) : Int) - 401

/-- Whether `coefficient * 10 ^ exponent` rounds to a magnitude of `units`: it lies within half the
spacing on either side, the ends included when the significand is even. -/
def readsBack (units coefficient : Nat) (exponent : Int) : Bool :=
  let spacing := twoPow (spacingBits units)
  let below := if units = twoPow units.log2 ∧ 1 < spacing then spacing else 2 * spacing
  let low := 4 * units - below
  let high := 4 * units + 2 * spacing
  let even := units / spacing % 2 = 0
  let value := if 0 ≤ exponent then coefficient * tenPow exponent.toNat * twoPow (unitBits + 2)
    else coefficient * twoPow (unitBits + 2)
  let scale := if 0 ≤ exponent then 1 else tenPow exponent.natAbs
  if even then decide (low * scale ≤ value) && decide (value ≤ high * scale)
  else decide (low * scale < value) && decide (value < high * scale)

/-- A magnitude in units of a power of ten, as a quotient of whole numbers. -/
def decimalQuotient (units : Nat) (exponent : Int) : Nat × Nat :=
  if 0 ≤ exponent then (units, twoPow unitBits * tenPow exponent.toNat)
  else (units * tenPow exponent.natAbs, twoPow unitBits)

/-- The nearest number of `places` significant digits that reads back, if there is one. A tie
between two of them goes to the even one. -/
def shortestAt? (units places : Nat) : Option (Nat × Int) :=
  let exponent := decimalExponent units + 1 - places
  let (numerator, denominator) := decimalQuotient units exponent
  let below := numerator / denominator
  let above := below + 1
  match readsBack units below exponent, readsBack units above exponent with
  | true, true => some (roundHalfEven numerator denominator, exponent)
  | true, false => some (below, exponent)
  | false, true => some (above, exponent)
  | false, false => none

/-- The shortest decimal that reads back as a magnitude of `units`: the fewest digits, and of
those the nearest. Seventeen digits always suffice. -/
def shortest (units : Nat) : Nat × Int :=
  ((List.range 17).findSome? fun index => shortestAt? units (index + 1)).getD (0, 0)

/-- Drop the zeros at the end of a digit list. -/
def dropTrailingZeros (digits : List Char) : List Char :=
  (digits.reverse.dropWhile (· == '0')).reverse

/-- How the digits of a magnitude are laid out. -/
structure Layout where
  /-- The most digits before the point of a positional text. -/
  widest : Int
  /-- Whether a single digit before an exponent is followed by a point and a zero. -/
  alwaysPointed : Bool

/-- The layout that reads back: positional from `10 ^ -4` to below `10 ^ 16`, always with a point,
and otherwise with a signed exponent of at least two digits. -/
def plainLayout : Layout := ⟨16, false⟩

/-- Lay out the digits of a magnitude, the point being behind so many of them. -/
def Layout.write (layout : Layout) (digits : List Char) (point : Int) : List Char :=
  if -4 < point ∧ point ≤ 0 then
    ['0', '.'] ++ List.replicate point.natAbs '0' ++ digits
  else if 0 < point ∧ point ≤ layout.widest then
    let whole := point.toNat
    let fraction := digits.drop whole
    digits.take whole ++ List.replicate (whole - digits.length) '0' ++ ['.'] ++
      (if fraction.isEmpty then ['0'] else fraction)
  else
    let scale := point - 1
    let fraction :=
      if 1 < digits.length then '.' :: digits.drop 1
      else if layout.alwaysPointed then ['.', '0'] else []
    digits.take 1 ++ fraction ++ ['e', if scale < 0 then '-' else '+'] ++
      paddedText 2 scale.natAbs

/-- A coefficient and a power of ten, laid out without the zeros at the end. -/
def Layout.scientific (layout : Layout) (coefficient : Nat) (exponent : Int) : List Char :=
  let digits := natText coefficient
  layout.write (dropTrailingZeros digits) (digits.length + exponent)

/-- The shortest text of a magnitude. -/
def magnitudeText (units : Nat) : List Char :=
  if units = 0 then ['0', '.', '0'] else
    let (coefficient, exponent) := shortest units
    plainLayout.scientific coefficient exponent

/-- The text of a double. -/
def text : Binary64 → String
  | .nan => "nan"
  | .infinite negative => if negative then "-inf" else "inf"
  | .finite negative units =>
    String.ofList ((if negative then ['-'] else []) ++ magnitudeText units)

/-- The nearest multiple of `10 ^ -places`, as a count of it; a tie goes to the even one. -/
def scaledUnits (places units : Nat) : Nat :=
  roundHalfEven (units * tenPow places) (twoPow unitBits)

end Binary64

end Herald
