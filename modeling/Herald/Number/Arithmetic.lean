import Herald.Number.Decimal

/-! # Decimal arithmetic

Sums and products are exact results rounded to 28 significant digits, a tie to the even digit.
They keep the exponent of their operands where it fits: a sum takes the smaller exponent, a
product the sum of the two. An exponent that leaves the range is an overflow; a result too small
for it loses digits instead.
-/

namespace Herald.Decimal

open Number

/-- Why an operation on decimals has no result. -/
inductive Signal
  | invalid
  | overflow
  deriving DecidableEq

/-- Significant digits of a result. -/
def precision : Nat := 28

/-- The largest power of ten of a first digit of a result. -/
def topExponent : Int := 999999

/-- The smallest exponent of a result. -/
def bottomExponent : Int := -999999 - 27

/-- The coefficient with `places` digits dropped, rounded half to even. A drop of more digits than
there are leaves nothing, whatever its size. -/
def dropDigits (coefficient places : Nat) : Nat :=
  if digitCount coefficient < places then 0 else roundHalfEven coefficient (tenPow places)

/-- Round an exact result to the precision and the range of exponents. -/
def rounded (negative : Bool) (coefficient : Nat) (exponent : Int) : Except Signal Decimal :=
  if coefficient = 0 then
    .ok (.finite negative 0 (max bottomExponent (min topExponent exponent)))
  else if topExponent < adjusted coefficient exponent then .error .overflow
  else
    let excess : Int := digitCount coefficient - precision
    let shift := max (max 0 excess) (bottomExponent - exponent)
    if shift ≤ 0 then .ok (.finite negative coefficient exponent)
    else
      let kept := dropDigits coefficient shift.toNat
      let lower := exponent + shift
      if kept = tenPow precision then
        if topExponent < adjusted (tenPow (precision - 1)) (lower + 1) then .error .overflow
        else .ok (.finite negative (tenPow (precision - 1)) (lower + 1))
      else .ok (.finite negative kept lower)

/-- A result that is not a number keeps as many digits of its payload as a result may have, the
last ones. -/
def withinPrecision : Decimal → Decimal
  | .nan negative signaling payload => .nan negative signaling (payload % tenPow precision)
  | value => value

/-- The not-a-number that an operation on one passes on: a signaling one is an error. -/
def passNaN (a b : Decimal) : Except Signal Decimal :=
  if a.isSignaling || b.isSignaling then .error .invalid
  else if a.isNaN then .ok a.withinPrecision else .ok b.withinPrecision

/-- The exact product, rounded. -/
def mul : Decimal → Decimal → Except Signal Decimal
  | .finite n a e, .finite m b f => rounded (n != m) (a * b) (e + f)
  | .infinite n, .infinite m => .ok (.infinite (n != m))
  | .infinite n, .finite m b _ => if b = 0 then .error .invalid else .ok (.infinite (n != m))
  | .finite n a _, .infinite m => if a = 0 then .error .invalid else .ok (.infinite (n != m))
  | a, b => passNaN a b

/-- The sum of two magnitudes with signs, aligned to the smaller exponent. -/
def addAligned (n : Bool) (a : Nat) (e : Int) (m : Bool) (b : Nat) (f : Int) :
    Except Signal Decimal :=
  let base := min e f
  let left : Int := a * tenPow (e - base).toNat
  let right : Int := b * tenPow (f - base).toNat
  let sum := (if n then -left else left) + (if m then -right else right)
  let negative := if sum = 0 then n && m else sum < 0
  rounded negative sum.natAbs base

/-- A term far below the last digit kept can only break ties: it is replaced by the smallest term
with the same effect, so that alignment stays short. -/
def nudge (a : Nat) (e : Int) (b : Nat) (f : Int) : Nat × Int :=
  let floor := e + min (-1) ((digitCount a : Int) - precision - 2)
  if adjusted b f < floor then (1, floor) else (b, f)

/-- The exact sum, rounded. -/
def add : Decimal → Decimal → Except Signal Decimal
  | .finite n a e, .finite m b f =>
    if a = 0 ∧ b = 0 then rounded (n && m) 0 (min e f)
    else if a = 0 then addAligned n 0 (max (min e f) (f - precision - 1)) m b f
    else if b = 0 then addAligned n a e m 0 (max (min e f) (e - precision - 1))
    else if f ≤ e then
      let (b, f) := nudge a e b f
      addAligned n a e m b f
    else
      let (a, e) := nudge b f a e
      addAligned n a e m b f
  | .infinite n, .infinite m => if n = m then .ok (.infinite n) else .error .invalid
  | .infinite n, .finite _ _ _ => .ok (.infinite n)
  | .finite _ _ _, .infinite m => .ok (.infinite m)
  | a, b => passNaN a b

/-- The number rounded to whole cents. A result of more digits than the precision holds is
refused, and so is an infinity. -/
def toCents : Decimal → Except Signal Decimal
  | .finite negative coefficient exponent =>
    if coefficient = 0 then .ok (.finite negative 0 (-2))
    else if topExponent < adjusted coefficient exponent then .error .invalid
    else if (precision : Int) < adjusted coefficient exponent + 3 then .error .invalid
    else
      let cents := if -2 ≤ exponent then coefficient * tenPow (exponent + 2).toNat
        else dropDigits coefficient (-2 - exponent).toNat
      if precision < digitCount cents then .error .invalid else .ok (.finite negative cents (-2))
  | .infinite _ => .error .invalid
  | value => passNaN value value

end Herald.Decimal
