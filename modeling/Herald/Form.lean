import Herald.Problem
import Herald.Value.Reading
import Herald.Number.Written

/-! # Reading the fields of a form

A form is a record of loosely typed values. Readers are lenient where no meaning is lost: a whole
double or a digit text is an integer, the usual words are truth values, but a number is never a
text. A field that is absent takes its default; a field that may be null takes null as absence.
-/

namespace Herald.Form

open Text Checked

variable {α : Type}

/-! ## Fields -/

/-- A field that must be present. -/
def required (fields : Fields) (name : String) (read : Value → Checked α) : Checked α :=
  match fields.get? name with
  | some value => (read value).under name
  | none => .refused [⟨[name], .missing⟩]

/-- A field with a default. -/
def withDefault (fields : Fields) (name : String) (default : α) (read : Value → Checked α) :
    Checked α :=
  match fields.get? name with
  | some value => (read value).under name
  | none => .valid default

/-- A field that may be absent or null. -/
def nullable (fields : Fields) (name : String) (read : Value → Checked α) : Checked (Option α) :=
  match fields.get? name with
  | none => .valid none
  | some .null => .valid none
  | some value => ((read value).map some).under name

/-! ## Texts, choices, lists -/

def text : Value → Checked String
  | .text content => .valid content
  | _ => complain .notText

/-- A text with bounds on its number of characters. -/
def sizedText (shortest : Nat) (longest : Option Nat) (value : Value) : Checked String :=
  (text value).andThen fun content =>
    if content.length < shortest then complain .textTooShort
    else match longest with
      | some most => if most < content.length then complain .textTooLong else .valid content
      | none => .valid content

/-- A text of a given form. -/
def formedText (allowed : String → Bool) (value : Value) : Checked String :=
  (text value).andThen fun content =>
    if allowed content then .valid content else complain .textOfWrongForm

/-- One of the words of a closed choice. -/
def choice (ofName? : String → Option α) : Value → Checked α
  | .text content =>
    match ofName? content with
    | some chosen => .valid chosen
    | none => complain .unknownChoice
  | _ => complain .unknownChoice

def list (read : Value → Checked α) : Value → Checked (List α)
  | .list values => items read 0 values
  | _ => complain .notList

def record (read : Fields → Checked α) : Value → Checked α
  | .record fields => read fields
  | _ => complain .notRecord

/-! ## Truth values -/

def wordsOfTrue : List String := ["1", "on", "t", "true", "y", "yes"]

def wordsOfFalse : List String := ["0", "off", "f", "false", "n", "no"]

/-- The integers of a machine word, the only ones that may be a truth value. -/
def isMachineInteger (number : Int) : Bool :=
  -9223372036854775808 ≤ number ∧ number ≤ 9223372036854775807

/-- The integers that a double may stand for: the machine integers without the least one. -/
def isDoubleInteger (number : Int) : Bool :=
  -9223372036854775808 < number ∧ number ≤ 9223372036854775807

/-- The truth value of an integer: one or zero. -/
def booleanOfInt (number : Int) : Checked Bool :=
  if number = 0 then .valid false
  else if number = 1 then .valid true
  else complain .unreadableBoolean

/-- The truth value of a double: a fraction is no truth value at all. -/
def booleanOfFloat (number : Binary64) : Checked Bool :=
  match number.toInt? with
  | some whole =>
    if isDoubleInteger whole then booleanOfInt whole else complain .notBoolean
  | none => complain .notBoolean

def boolean : Value → Checked Bool
  | .bool flag => .valid flag
  | .int number =>
    if isMachineInteger number then booleanOfInt number else complain .notBoolean
  | .float number => booleanOfFloat number
  | .decimal number => booleanOfFloat (Number.nearestDouble number)
  | .text content =>
    if wordsOfTrue.contains (lowercase content) then .valid true
    else if wordsOfFalse.contains (lowercase content) then .valid false
    else complain .unreadableBoolean
  | _ => complain .notBoolean

/-! ## Numbers -/

/-- Whether underscores stand only between other characters, one at a time. -/
def underscoresSeparate : List Char → Bool
  | [] => true
  | '_' :: _ => false
  | _ :: '_' :: rest =>
    match rest with
    | [] => false
    | c :: _ => c != '_' && underscoresSeparate rest
  | _ :: rest => underscoresSeparate rest

/-- The most digits an integer text may have. -/
def longestInteger : Nat := 4300

/-- What stays of a number behind its leading zeros and the underscores among them: it starts at
the next digit or minus sign, and one character stays before a point or the end. -/
def behindZeros? (last : Char) : List Char → Option (List Char)
  | [] => some [last]
  | c :: rest =>
    if c == '0' || c == '_' then behindZeros? c rest
    else if c == '.' then some (last :: c :: rest)
    else if c == '-' || c.isDigit then some (c :: rest)
    else none

/-- An unsigned number without its leading zeros; it must start with a digit. -/
def withoutLeadingZeros? : List Char → Option (List Char)
  | [] => none
  | c :: rest =>
    if c == '0' then behindZeros? c rest
    else if c.isDigit then some (c :: rest)
    else none

/-- A number without a point behind which there are zeros, one at least. -/
def withoutZeroFraction (chars : List Char) : List Char :=
  let fraction := (chars.dropWhile (· != '.')).drop 1
  if !fraction.isEmpty && fraction.all (· == '0') then chars.takeWhile (· != '.') else chars

/-- A number without single underscores between other characters. -/
def withoutUnderscores (chars : List Char) : List Char :=
  if underscoresSeparate chars then chars.filter (· != '_') else chars

/-- The number that plain digits write: there are not too many of them, and only zero itself starts
with a zero. -/
def plainNatural? (digits : List Char) : Option Nat :=
  if longestInteger < digits.length || (1 < digits.length && digits.head? == some '0') then none
  else Decimal.natural? digits

/-- The integer that plain digits write, perhaps behind a minus sign. -/
def plainInteger? : List Char → Option Int
  | '-' :: digits => (plainNatural? digits).map fun number => -Int.ofNat number
  | digits => (plainNatural? digits).map Int.ofNat

/-- An integer text in plain characters: one plus sign, leading zeros, zeros behind a point and
single underscores between digits are dropped, and a minus sign stays in front. -/
def tidied? (chars : List Char) : Option (List Char) :=
  let tidy := fun unsigned => (withoutLeadingZeros? unsigned).map fun rest =>
    withoutUnderscores (withoutZeroFraction rest)
  match chars with
  | '-' :: rest => (tidy rest).map ('-' :: ·)
  | '+' :: rest => tidy rest
  | rest => tidy rest

/-- Whether a text starts, perhaps behind a minus sign, with more digits than an integer has. -/
def isOverlong (chars : List Char) : Bool :=
  let digits := (if chars.head? == some '-' then chars.drop 1 else chars).takeWhile Char.isDigit
  longestInteger < digits.length && digits.head? != some '0'

/-- An integer text, plain or tidied. -/
def integerOfText (content : String) : Checked Int :=
  let chars := trimNumber content.toList
  if isOverlong chars then complain .integerTooLong
  else match (plainInteger? chars).or ((tidied? chars).bind plainInteger?) with
    | some number => .valid number
    | none => complain .unreadableInteger

def integer : Value → Checked Int
  | .int number => .valid number
  | .bool flag => .valid (if flag then 1 else 0)
  | .float number =>
    if !number.isFinite then complain .notFinite
    else match number.toInt? with
      | some whole =>
        if isDoubleInteger whole then .valid whole else complain .integerTooLong
      | none => complain .fractionalInteger
  | .decimal number =>
    match number with
    | .finite negative coefficient exponent =>
      match Decimal.whole? negative coefficient exponent with
      | some whole => .valid whole
      | none => complain .fractionalInteger
    | _ => complain .notFinite
  | .text content => integerOfText content
  | _ => complain .notInteger

/-- An integer within bounds; the upper bound is looked at first. -/
def integerWithin (least most : Option Int) (value : Value) : Checked Int :=
  (integer value).andThen fun number =>
    if most.any (· < number) then complain .notAtMost
    else if least.any (number < ·) then complain .notAtLeast
    else .valid number

/-- An integer above zero. -/
def positiveInteger (value : Value) : Checked { number : Nat // 0 < number } :=
  (integer value).andThen fun number =>
    if h : 0 < number then .valid ⟨number.toNat, by omega⟩ else complain .notAbove

/-- A finite decimal. -/
def decimal (value : Value) : Checked Decimal :=
  let number? := match value with
    | .decimal number => Checked.valid number
    | .int number => .valid (.ofInt number)
    | .float number =>
      match Decimal.ofText? number.text with
      | some number => .valid number
      | none => complain .unreadableDecimal
    | .text content =>
      match Decimal.ofText? content with
      | some number => .valid number
      | none => complain .unreadableDecimal
    | _ => complain .notDecimal
  number?.andThen fun number =>
    if number.isFinite then .valid number else complain .notFinite

/-- The double that a text writes in plain characters. It may have single underscores if there are
no blanks around it. -/
def floatOfText? (content : String) : Option Binary64 :=
  let chars := content.toList
  (Number.double? (trimNumber chars)).or
    (if underscoresSeparate chars then Number.double? (chars.filter (· != '_')) else none)

def float : Value → Checked Binary64
  | .float number => .valid number
  | .int number =>
    let double := Binary64.ofInt number
    if double.isFinite then .valid double else complain .notFloat
  | .bool flag => .valid (.ofInt (if flag then 1 else 0))
  | .decimal number =>
    if number.isSignaling then complain .notFloat else .valid (Number.nearestDouble number)
  | .text content =>
    match floatOfText? content with
    | some number => .valid number
    | none => complain .unreadableFloat
  | _ => complain .notFloat

/-- A double above zero, which is also what a value that is not a number is not. -/
def positiveFloat (value : Value) : Checked Binary64 :=
  (float value).andThen fun number =>
    if Binary64.zero.lt number then .valid number else complain .notAbove

end Herald.Form
