import Herald.Number.Binary64
import Herald.Number.Decimal

/-! # Written numbers of settings

Settings are written by people, so blanks around a number and single underscores between its digits
are allowed, and a digit of any script stands for its value. Nothing else may stand beside the
number. A double may have an exponent of any size: one that is too large makes it infinite, one that
is too small makes it zero.
-/

namespace Herald.Number

open Text

/-- The double nearest to a decimal. -/
def nearestDouble : Decimal → Binary64
  | .finite negative coefficient exponent => Binary64.ofScientific negative coefficient exponent
  | .infinite negative => .infinite negative
  | .nan _ _ _ => .nan

/-- An unsigned double in plain characters. -/
def unsignedDouble? (negative : Bool) (chars : List Char) : Option Binary64 :=
  let word := chars.map Char.toLower
  if word == "inf".toList || word == "infinity".toList then some (.infinite negative)
  else if word == "nan".toList then some .nan
  else (Decimal.scientific? chars).map fun (coefficient, exponent) =>
    Binary64.ofScientific negative coefficient exponent

/-- A double in plain characters, with an optional sign. -/
def double? : List Char → Option Binary64
  | '-' :: rest => unsignedDouble? true rest
  | '+' :: rest => unsignedDouble? false rest
  | chars => unsignedDouble? false chars

/-- Drop the underscores of a number; none may stand anywhere but between two digits. -/
def withoutUnderscores? (afterDigit : Bool) : List Char → Option (List Char)
  | [] => some []
  | '_' :: c :: rest =>
    if afterDigit && c.isDigit then (withoutUnderscores? true rest).map (c :: ·) else none
  | c :: rest =>
    if c == '_' then none else (withoutUnderscores? c.isDigit rest).map (c :: ·)

/-- The plain characters of a written number. -/
def plainNumber? (text : String) : Option (List Char) :=
  withoutUnderscores? false ((trimNumber text.toList).map Decimal.plainForm)

/-- The most digits of a written integer. -/
def longestWritten : Nat := 4300

/-- Whether an integer has more digits than are written out. A number that is read from a text with
an exponent may have. -/
def isOverlong (number : Int) : Bool := decide (tenPow longestWritten ≤ number.natAbs)

/-- An integer in plain characters, with an optional sign. -/
def integer? : List Char → Option Int
  | '-' :: digits => (Decimal.natural? digits).map fun number => -(number : Int)
  | '+' :: digits => (Decimal.natural? digits).map Int.ofNat
  | digits => (Decimal.natural? digits).map Int.ofNat

/-- The integer that a text writes. -/
def integerOfText? (text : String) : Option Int :=
  match plainNumber? text with
  | some chars =>
    if longestWritten < (chars.filter Char.isDigit).length then none else integer? chars
  | none => none

/-- The double that a text writes. -/
def doubleOfText? (text : String) : Option Binary64 :=
  (plainNumber? text).bind double?

end Herald.Number
