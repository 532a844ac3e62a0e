import Herald.Number.Extended

/-! # Doubles at a fixed number of digits

A text column keeps a double as a text of fifteen significant digits, so two doubles that differ
only beyond them have the same text. The digits are taken one after the other from a number that has
been scaled to below ten, and each step is rounded. There is one zero, and what is not a number has
no text.
-/

namespace Herald.Binary64

open Number Text

/-- Significant digits of a double in a text column. -/
def columnDigits : Nat := 15

/-- The layout in a text column: positional from `10 ^ -4` to below `10 ^ 15`, and always with a
point. -/
def columnLayout : Layout := ⟨15, true⟩

/-- Half of the last digit's unit, for a number whose first digit counts ones. -/
def halfLastDigit : Extended :=
  (Extended.ofDouble 5 (-5)).mul (Extended.ofDouble 1 (-10))

/-- Multiply a scale by a power of ten as long as a number is not below it; the exponent counts. At
most `steps` times. -/
def climb (number : Extended) (power : Nat) : Nat → Extended × Int → Extended × Int
  | 0, reached => reached
  | steps + 1, (scale, exponent) =>
    let next := (Extended.ofDouble 1 power).mul scale
    if next.le number then climb number power steps (next, exponent + power) else (scale, exponent)

/-- Multiply a number by a power of ten as long as it is below a bound; the exponent counts. At most
`steps` times. -/
def raise (bound : Extended) (power : Nat) : Nat → Extended × Int → Extended × Int
  | 0, reached => reached
  | steps + 1, (number, exponent) =>
    if number.lt bound then
      raise bound power steps (number.mul (Extended.ofDouble 1 power), exponent - power)
    else (number, exponent)

/-- A magnitude as a number from one to below ten and a power of ten. -/
def normalized (number : Extended) : Extended × Int :=
  let (scale, exponent) :=
    climb number 1 10 (climb number 10 10 (climb number 100 4 (Extended.one, 0)))
  raise Extended.one 1 8
    (raise (Extended.ofDouble 1 (-8)) 8 50 (number.div scale, exponent))

/-- The first `count` digits of a number below ten. -/
def leadingDigits : Nat → Extended → List Char
  | 0, _ => []
  | count + 1, number =>
    let (whole, rest) := number.split
    digitChar whole :: leadingDigits count (rest.mul Extended.ten)

/-- The digits of a magnitude and the place of the point behind the first of them. -/
def significant (units : Nat) : List Char × Int :=
  let (number, exponent) := normalized (Extended.ofUnits units)
  let rounded := number.add halfLastDigit
  if Extended.ten.le rounded then
    (leadingDigits columnDigits (rounded.mul (Extended.ofDouble 1 (-1))), exponent + 2)
  else (leadingDigits columnDigits rounded, exponent + 1)

/-- The text of a double in a text column, if it has one. -/
def columnText? : Binary64 → Option String
  | .nan => none
  | .infinite negative => some (if negative then "-Inf" else "Inf")
  | .finite _ 0 => some "0.0"
  | .finite negative units =>
    let (digits, point) := significant units
    some (String.ofList ((if negative then ['-'] else []) ++
      columnLayout.write (dropTrailingZeros digits) point))

end Herald.Binary64
