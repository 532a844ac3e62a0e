/-! # Rounding a quotient

Amounts are rounded to the nearest whole unit, and a quotient that lies exactly between two units
goes to the even one, so that rounding favours neither direction in the long run; a format with a
rule of its own may send it up instead. Units are powers of ten and of two.
-/

namespace Herald.Number

/-- A power of ten. -/
def tenPow (places : Nat) : Nat := Nat.pow 10 places

/-- A power of two. -/
def twoPow (bits : Nat) : Nat := Nat.pow 2 bits

/-- The whole number nearest to `numerator / denominator`; a tie goes to the even neighbour. -/
def roundHalfEven (numerator denominator : Nat) : Nat :=
  let quotient := numerator / denominator
  let twice := 2 * (numerator % denominator)
  if twice < denominator then quotient
  else if denominator < twice then quotient + 1
  else quotient + quotient % 2

/-- The whole number nearest to `numerator / denominator`; a tie goes up. -/
def roundHalfUp (numerator denominator : Nat) : Nat :=
  (2 * numerator + denominator) / (2 * denominator)

/-- How many decimal digits a number has; the number zero has one. -/
def digitCount (number : Nat) : Nat :=
  (Nat.toDigits 10 number).length

end Herald.Number
