import Herald.Failure
import Herald.Number.Written
import Herald.Number.Scaled

/-! # Cells of integer columns

The engine writes integers into its columns of integers, but a row that is corrected by hand may get
anything else. Such a column turns what writes a whole number into an integer and keeps the rest as
it is: a number that is not whole stays a double, and a text that writes no number stays a text.
Comparisons and arithmetic are defined for numbers, whatever their kind, and refuse a text.
-/

namespace Herald

/-- What a column of integers holds. -/
inductive Cell
  | int (number : Int)
  | double (number : Binary64)
  | text (content : String)
  deriving DecidableEq

namespace Cell

/-! ## Keeping values -/

/-- The largest integer that a column keeps. -/
def largest : Int := 9223372036854775807

/-- Whether a column keeps an integer as it is. -/
def fits (number : Int) : Bool := decide (-largest - 1 ≤ number) && decide (number ≤ largest)

/-- An integer that the database takes. -/
def fitted (number : Int) : Except Failure Int :=
  if fits number then .ok number else .error (.outOfRange .column)

/-- A double in a column of integers. -/
def ofDouble (number : Binary64) : Cell :=
  match number.toInt? with
  | some whole => if -largest - 1 < whole ∧ whole ≤ largest then .int whole else .double number
  | none => .double number

/-- A cell as a column keeps it. -/
def kept : Cell → Cell
  | .double number => ofDouble number
  | cell => cell

/-- Whether a character may surround a number in a text. -/
def isSpace (c : Char) : Bool := c == ' ' || (0x09 ≤ c.toNat && c.toNat ≤ 0x0D)

/-- The exponent at the beginning of some characters: a mark, perhaps a sign, and digits. -/
def exponentPart : List Char → List Char
  | [] => []
  | mark :: rest =>
    let sign := rest.take 1 |>.filter fun c => c == '+' || c == '-'
    let digits := (rest.drop sign.length).takeWhile Char.isDigit
    if (mark == 'e' || mark == 'E') && !digits.isEmpty then mark :: sign ++ digits else []

/-- The unsigned number at the beginning of some characters: digits, perhaps with a point, and an
exponent. Without a digit before the exponent there is none. -/
def numberPart (chars : List Char) : List Char :=
  let whole := chars.takeWhile Char.isDigit
  let fraction := match chars.drop whole.length with
    | '.' :: rest => '.' :: rest.takeWhile Char.isDigit
    | _ => []
  let mantissa := whole ++ fraction
  if mantissa.any Char.isDigit then mantissa ++ exponentPart (chars.drop mantissa.length) else []

/-- The number that an unsigned number and a sign write: digits alone write an integer as long as it
fits, and everything else a double. -/
def ofNumberPart (negative : Bool) (part : List Char) : Cell :=
  let double := Cell.double (Number.scaledDouble negative part)
  match Decimal.natural? part with
  | none => double
  | some magnitude =>
    let whole : Int := if negative then -(magnitude : Int) else magnitude
    if fits whole then .int whole else double

/-- The number at the beginning of a text and what follows it. -/
def leading? (content : String) : Option (Cell × List Char) :=
  let chars := content.toList.dropWhile isSpace
  let sign := chars.take 1 |>.filter fun c => c == '+' || c == '-'
  let body := chars.drop sign.length
  let part := numberPart body
  if part.isEmpty then none
  else some (ofNumberPart (sign.contains '-') part, body.drop part.length)

/-- A text in a column of integers. -/
def ofText (content : String) : Cell :=
  match leading? content with
  | some (number, rest) => if rest.all isSpace then number.kept else .text content
  | none => .text content

/-- What is read from a column: an integer beyond its range has become a double. -/
def read : Cell → Cell
  | .int number => if fits number then .int number else .double (.ofInt number)
  | cell => cell

/-! ## Values -/

/-- The cell that a loose value is by itself, before any column has kept it; null is none. -/
def ofValue? : Value → Option Cell
  | .null => none
  | .bool flag => some (.int (if flag then 1 else 0))
  | .int number => some (.int number)
  | .float number => some (.double number)
  | .decimal number => some (.double (Number.nearestDouble number))
  | value => some (.text value.inSentence)

def toValue : Cell → Value
  | .int number => .int number
  | .double number => .float number
  | .text content => .text content

/-- The text of a cell inside a sentence. -/
def inSentence (cell : Cell) : String := cell.toValue.inSentence

/-- Whether a cell counts as nothing: a zero or an empty text. -/
def isZero : Cell → Bool
  | .int number => number == 0
  | .double number => number.eq .zero
  | .text content => content.isEmpty

/-! ## Comparisons -/

/-- Whether two cells are the same, whatever kind of number they are. -/
def same : Cell → Cell → Bool
  | .int a, .int b => a == b
  | .double a, .double b => a.eq b
  | .int a, .double b => b.toInt? == some a
  | .double a, .int b => a.toInt? == some b
  | .text a, .text b => a == b
  | _, _ => false

/-- A number in the units of doubles. An integer is exact there, however large it is. -/
def inUnits? : Cell → Except Failure Binary64
  | .int number => .ok (.finite (number < 0) (number.natAbs * Number.twoPow Binary64.unitBits))
  | .double number => .ok number
  | .text _ => .error (.wrongKind .unorderedText)

/-- Whether a number is at most another one. -/
def le : Cell → Cell → Except Failure Bool
  | .int a, .int b => .ok (decide (a ≤ b))
  | a, b => do return (← a.inUnits?).le (← b.inUnits?)

/-- Whether a number is below another one. -/
def lt : Cell → Cell → Except Failure Bool
  | .int a, .int b => .ok (decide (a < b))
  | a, b => do return (← a.inUnits?).lt (← b.inUnits?)

/-- Whether a number is above zero. Nothing is not, and what is not a number passes for one that
is. -/
def isPositive : Cell → Except Failure Bool
  | .int number => .ok (decide (0 < number))
  | .double number => .ok (!number.le .zero)
  | .text content => if content.isEmpty then .ok false else .error (.wrongKind .unorderedText)

/-- The least integer that is not below a cell, as a bound on a count; an infinity bounds nothing or
everything. -/
def limit? : Cell → Except Failure (Option Int)
  | .int number => .ok (some number)
  | .double number => .ok number.ceiling?
  | .text _ => .error (.wrongKind .unorderedText)

/-! ## Arithmetic -/

/-- Add a count to a number. -/
def plusNumber (number : Cell) (count : Nat) : Cell :=
  match number with
  | .int number => .int (number + count)
  | .double number => ofDouble (number.add (.ofInt count))
  | .text content => .text content

/-- Add a count to a column. A text stands for the number at its beginning. Adding nothing is no
change. -/
def plus (cell : Cell) (count : Nat) : Cell :=
  match count, cell with
  | 0, cell => cell
  | count, .text content => plusNumber (((leading? content).map Prod.fst).getD (.int 0)) count
  | count, number => plusNumber number count

/-- A number as a double, to which another one can be added. -/
def double? : Cell → Except Failure Binary64
  | .int number => .ok (.ofInt number)
  | .double number => .ok number
  | .text _ => .error (.wrongKind .mixedSum)

/-- The sum of two cells as they are read. Nothing counts as zero, and of two texts the second one
is put behind the first. -/
def sum (a b : Cell) : Except Failure Cell :=
  match (if a.isZero then .int 0 else a.read), (if b.isZero then .int 0 else b.read) with
  | .int a, .int b => .ok (.int (a + b))
  | .text a, .text b => .ok (.text (a ++ b))
  | a, b => do return .double ((← a.double?).add (← b.double?))

/-- A unit in which lengths of time are kept. -/
inductive TimeUnit
  | minutes
  | days
  deriving DecidableEq

namespace TimeUnit

def name : TimeUnit → String
  | .minutes => "minutes"
  | .days => "days"

def micros : TimeUnit → Nat
  | .minutes => minuteMicros
  | .days => dayMicros

end TimeUnit

/-- The microseconds of so many units of time. The whole units are exact; of the rest, the
microseconds are rounded to a double first and then to the nearest whole one. -/
def micros (unit : TimeUnit) : Cell → Except Failure Int
  | .int number => .ok (number * unit.micros)
  | .double (.finite negative units) =>
    let (whole, rest) := Binary64.splitWhole units
    let fraction := Binary64.scaledUnits 0 (Binary64.roundUnits (rest * unit.micros) 1)
    .ok (Binary64.signedUnits negative (whole * unit.micros + fraction))
  | .double (.infinite _) => .error (.outOfRange .infiniteDouble)
  | .double .nan => .error .unreadableNumber
  | .text _ => .error (.wrongKind (.textOf unit.name))

end Cell

end Herald
