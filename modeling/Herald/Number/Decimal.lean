import Herald.Number.Rounding
import Herald.Text.Digit
import Herald.Text.Case
import Herald.Text.Blank

/-! # Decimal numbers

A decimal keeps how it was written: a sign, a coefficient and a power of ten, so `0.50` and `0.5`
are equal numbers with different texts. Beside the finite ones there are two infinities and values
that are not numbers; a signaling one may not take part in any comparison.
-/

namespace Herald

open Number Text

/-- A decimal number: `coefficient * 10 ^ exponent` with a sign, an infinity, or not a number. -/
inductive Decimal
  | finite (negative : Bool) (coefficient : Nat) (exponent : Int)
  | infinite (negative : Bool)
  | nan (negative : Bool) (signaling : Bool) (payload : Nat)
  deriving DecidableEq

namespace Decimal

def zero : Decimal := .finite false 0 0

def ofInt (number : Int) : Decimal := .finite (number < 0) number.natAbs 0

def isFinite : Decimal → Bool
  | .finite _ _ _ => true
  | _ => false

def isNaN : Decimal → Bool
  | .nan _ _ _ => true
  | _ => false

def isSignaling : Decimal → Bool
  | .nan _ signaling _ => signaling
  | _ => false

/-- Whether the number is a zero, of either sign and any exponent. -/
def isZero : Decimal → Bool
  | .finite _ coefficient _ => coefficient == 0
  | _ => false

/-- The power of ten of the first digit. -/
def adjusted (coefficient : Nat) (exponent : Int) : Int :=
  exponent + digitCount coefficient - 1

/-! ## Text -/

def signText (negative : Bool) : List Char := if negative then ['-'] else []

/-- A finite magnitude: positional while the exponent is not positive and at most six zeros
follow the point, and otherwise with one digit before the point and a signed exponent. -/
def magnitudeText (coefficient : Nat) (exponent : Int) : List Char :=
  let digits := natText coefficient
  let left : Int := exponent + digits.length
  let point : Int := if exponent ≤ 0 ∧ -6 < left then left else 1
  let body :=
    if point ≤ 0 then ['0', '.'] ++ List.replicate point.natAbs '0' ++ digits
    else if digits.length ≤ point.toNat then digits
    else digits.take point.toNat ++ ['.'] ++ digits.drop point.toNat
  let scale := left - point
  if scale = 0 then body
  else body ++ ['E', if scale < 0 then '-' else '+'] ++ natText scale.natAbs

/-- The text of a decimal, which keeps its exponent. -/
def text : Decimal → String
  | .finite negative coefficient exponent =>
    String.ofList (signText negative ++ magnitudeText coefficient exponent)
  | .infinite negative => String.ofList (signText negative ++ "Infinity".toList)
  | .nan negative signaling payload =>
    String.ofList (signText negative ++ (if signaling then "sNaN" else "NaN").toList ++
      (if payload = 0 then [] else natText payload))

/-- The largest power of ten of a first digit, and the largest precision. -/
def exponentLimit : Int := 999999999999999999

/-- The smallest exponent that can be written. -/
def exponentFloor : Int := -1999999999999999997

/-- The values of a list of digits, if it holds nothing else. -/
def digitValues? (chars : List Char) : Option (List Nat) :=
  chars.mapM plainDigit?

/-- A run of digits, one of them at least, as a number. -/
def natural? (chars : List Char) : Option Nat :=
  if chars.isEmpty then none else (digitValues? chars).map ofDigits

/-- The written exponent: an optional sign and digits. -/
def exponent? : List Char → Option Int
  | '-' :: digits => (natural? digits).map fun number => -(number : Int)
  | '+' :: digits => (natural? digits).map Int.ofNat
  | digits => (natural? digits).map Int.ofNat

/-- A finite number whose exponent is in the range that can be written. -/
def ranged? (negative : Bool) (coefficient : Nat) (exponent : Int) : Option Decimal :=
  if coefficient = 0 then
    if exponentFloor ≤ exponent ∧ exponent ≤ exponentLimit then
      some (.finite negative coefficient exponent)
    else none
  else if exponentFloor ≤ exponent ∧ adjusted coefficient exponent ≤ exponentLimit then
    some (.finite negative coefficient exponent)
  else none

/-- The number before an exponent mark: digits with at most one point and one digit at least. -/
def mantissa? (chars : List Char) : Option (Nat × Nat) :=
  let whole := chars.takeWhile (· != '.')
  let fraction := (chars.dropWhile (· != '.')).drop 1
  if whole.isEmpty && fraction.isEmpty then none
  else match digitValues? (whole ++ fraction) with
    | some digits => some (ofDigits digits, fraction.length)
    | none => none

/-- The coefficient and the exponent that unsigned plain characters write. -/
def scientific? (chars : List Char) : Option (Nat × Int) :=
  let isMark := fun c : Char => c == 'e' || c == 'E'
  let body := chars.takeWhile fun c => !isMark c
  let tail := chars.dropWhile fun c => !isMark c
  match mantissa? body, tail with
  | some (coefficient, places), [] => some (coefficient, -(places : Int))
  | some (coefficient, places), _ :: digits =>
    (exponent? digits).map fun exponent => (coefficient, exponent - places)
  | none, _ => none

/-- An unsigned finite number. -/
def finite? (negative : Bool) (chars : List Char) : Option Decimal :=
  (scientific? chars).bind fun (coefficient, exponent) => ranged? negative coefficient exponent

/-- The payload after a not-a-number word: digits or nothing. -/
def payload? (chars : List Char) : Option Nat :=
  if chars.isEmpty then some 0 else natural? chars

/-- What follows a word at the start of a text, in any letter case. -/
def afterWord? (word : String) (chars : List Char) : Option (List Char) :=
  let length := word.length
  if chars.length < length then none
  else if (chars.take length).map Char.toLower == word.toList then some (chars.drop length)
  else none

/-- An unsigned number. -/
def unsigned? (negative : Bool) (chars : List Char) : Option Decimal :=
  if afterWord? "inf" chars == some [] || afterWord? "infinity" chars == some [] then
    some (.infinite negative)
  else match afterWord? "nan" chars, afterWord? "snan" chars with
    | some rest, _ => (payload? rest).map fun payload => .nan negative false payload
    | none, some rest => (payload? rest).map fun payload => .nan negative true payload
    | none, none => finite? negative chars

/-- Read plain characters, with an optional sign. -/
def signed? : List Char → Option Decimal
  | '-' :: rest => unsigned? true rest
  | '+' :: rest => unsigned? false rest
  | chars => unsigned? false chars

/-- A digit of any script as the plain digit of its value; other characters stay. -/
def plainForm (c : Char) : Char :=
  match digitValue? c with
  | some value => digitChar value
  | none => c

/-- Read a decimal. Blanks around it and underscores anywhere in it do not count, and a digit of
any script stands for its value. -/
def ofText? (text : String) : Option Decimal :=
  signed? (((trim text.toList).filter (· != '_')).map plainForm)

/-! ## Order -/

/-- The order of two magnitudes. The powers of ten of the first digits decide first, so that the
scaled coefficients are compared only when they have about as many digits. -/
def compareMagnitude (a : Nat) (e : Int) (b : Nat) (f : Int) : Ordering :=
  if a = 0 ∨ b = 0 then compare a b
  else if adjusted a e ≠ adjusted b f then compare (adjusted a e) (adjusted b f)
  else
    let base := min e f
    compare (a * tenPow (e - base).toNat) (b * tenPow (f - base).toNat)

/-- The order of two numbers; none when one of them is not a number. -/
def order? : Decimal → Decimal → Option Ordering
  | .nan _ _ _, _ => none
  | _, .nan _ _ _ => none
  | .infinite n, .infinite m => some (if n = m then .eq else if n then .lt else .gt)
  | .infinite n, .finite _ _ _ => some (if n then .lt else .gt)
  | .finite _ _ _, .infinite m => some (if m then .gt else .lt)
  | .finite n a e, .finite m b f =>
    if a = 0 ∧ b = 0 then some .eq
    else if a = 0 then some (if m then .gt else .lt)
    else if b = 0 then some (if n then .lt else .gt)
    else if n ≠ m then some (if n then .lt else .gt)
    else if n then some (compareMagnitude b f a e)
    else some (compareMagnitude a e b f)

/-- The integer that a finite decimal equals, if it is whole. -/
def whole? (negative : Bool) (coefficient : Nat) (exponent : Int) : Option Int :=
  if coefficient = 0 then some 0
  else if 0 ≤ exponent then
    let magnitude : Int := coefficient * tenPow exponent.toNat
    some (if negative then -magnitude else magnitude)
  else if digitCount coefficient ≤ exponent.natAbs then none
  else
    let scale := tenPow exponent.natAbs
    if coefficient % scale = 0 then
      let magnitude : Int := coefficient / scale
      some (if negative then -magnitude else magnitude)
    else none

end Decimal

end Herald
