import Herald.Number.Extended

/-! # Doubles read by scaling

A column of numbers reads a text in two steps: the first digits are collected into a significand of
a machine word, and that significand is multiplied or divided by a power of ten. Both the power and
the result are rounded, so the double is not always the nearest one to what the text writes.
-/

namespace Herald.Number

/-- A number on its way: a significand and the power of ten that it is scaled by. -/
structure Scaled where
  significand : Nat
  exponent : Int
  deriving DecidableEq

namespace Scaled

/-- From this significand on no further digit is collected. -/
def fullSignificand : Nat := 922337203685477579

/-- Up to this significand there is room for one more zero. -/
def roomySignificand : Nat := 922337203685477580

/-- Collect a digit before the point; behind a full significand it only counts. -/
def collectWhole (number : Scaled) (digit : Char) : Scaled :=
  if number.significand < fullSignificand then
    { number with significand := 10 * number.significand + (Text.plainDigit? digit).getD 0 }
  else { number with exponent := number.exponent + 1 }

/-- Collect a digit behind the point; behind a full significand it is dropped. -/
def collectFraction (number : Scaled) (digit : Char) : Scaled :=
  if number.significand < fullSignificand then
    ⟨10 * number.significand + (Text.plainDigit? digit).getD 0, number.exponent - 1⟩
  else number

/-- The exponent of ten that digits write. One of more than five digits is the limit. -/
def writtenExponent (digits : List Char) : Nat :=
  digits.foldl (fun total digit =>
    if total < 10000 then 10 * total + (Text.plainDigit? digit).getD 0 else 10000) 0

/-- The exponent behind a mark, with a sign. -/
def signedExponent : List Char → Int
  | '-' :: digits => -(writtenExponent digits : Int)
  | '+' :: digits => writtenExponent digits
  | digits => writtenExponent digits

/-- The number that digits, perhaps with a point and an exponent, write. -/
def ofChars (chars : List Char) : Scaled :=
  let whole := chars.takeWhile Char.isDigit
  let rest := chars.drop whole.length
  let fraction := if rest.head? == some '.' then (rest.drop 1).takeWhile Char.isDigit else []
  let mark := chars.dropWhile fun c => c != 'e' && c != 'E'
  let number := fraction.foldl collectFraction (whole.foldl collectWhole ⟨0, 0⟩)
  { number with exponent := number.exponent + signedExponent (mark.drop 1) }

/-- Multiply a significand by ten as long as the exponent has powers of ten and there is room. -/
def grow (significand : Nat) : Nat → Nat × Nat
  | 0 => (significand, 0)
  | exponent + 1 =>
    if significand < roomySignificand then grow (10 * significand) exponent
    else (significand, exponent + 1)

/-- Divide a significand by ten as long as the exponent has powers of ten and nothing is lost. -/
def shrink (significand : Nat) : Nat → Nat × Nat
  | 0 => (significand, 0)
  | exponent + 1 =>
    if significand % 10 = 0 then shrink (significand / 10) exponent
    else (significand, exponent + 1)

/-- The largest power of ten that is a double. -/
def largestPower : Nat := 308

/-- The units of the largest power of ten. -/
def powerUnits : Nat :=
  Binary64.roundUnits (tenPow largestPower * twoPow Binary64.unitBits) 1

/-- A finite double after a second step on its units. -/
def onUnits (second : Nat → Binary64) : Binary64 → Binary64
  | .finite _ units => second units
  | other => other

/-- A significand times a power of ten. A power that is not below the largest double one is taken in
two steps, and one far beyond it makes the number infinite. -/
def multiplied (negative : Bool) (significand exponent : Nat) : Binary64 :=
  let times := fun power => ((Extended.ofNat significand).mul (.tenToThe power)).toDouble negative
  if exponent < largestPower then times exponent
  else if exponent < largestPower + 34 then
    onUnits (fun units =>
      Binary64.ofUnits negative (units * powerUnits) (twoPow Binary64.unitBits))
      (times (exponent - largestPower))
  else .infinite negative

/-- A significand divided by a power of ten. A power that is not below the largest double one is
taken in two steps, and one far beyond it leaves nothing. -/
def divided (negative : Bool) (significand exponent : Nat) : Binary64 :=
  let by_ := fun power => ((Extended.ofNat significand).div (.tenToThe power)).toDouble negative
  if exponent < largestPower then by_ exponent
  else if exponent < largestPower + 34 then
    onUnits (fun units =>
      Binary64.ofUnits negative (units * twoPow Binary64.unitBits) powerUnits)
      (by_ (exponent - largestPower))
  else .finite negative 0

/-- The double of a number, with a sign. Powers of ten that fit the significand are taken there. -/
def toDouble (negative : Bool) (number : Scaled) : Binary64 :=
  if number.significand = 0 then .finite negative 0
  else match number.exponent with
    | .ofNat exponent =>
      let (significand, exponent) := grow number.significand exponent
      multiplied negative significand exponent
    | .negSucc exponent =>
      let (significand, exponent) := shrink number.significand (exponent + 1)
      divided negative significand exponent

end Scaled

/-- The double that a column of numbers reads from digits, perhaps with a point and an exponent. -/
def scaledDouble (negative : Bool) (chars : List Char) : Binary64 :=
  (Scaled.ofChars chars).toDouble negative

end Herald.Number
