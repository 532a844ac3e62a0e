import Herald.Value

/-! # Reading values

How a loosely typed value is read as a number, a date or an integer. A value that cannot be read
is simply unreadable, not an error; the one exception is an integer, where an infinity and a
signaling not-a-number are refused.
-/

namespace Herald.Value

/-- Why a value or a date computation is refused. -/
inductive Refusal
  /-- A result outside the calendar or the integers. -/
  | outOfRange (fault : RangeFault)
  /-- A comparison or operation that is undefined for a number. -/
  | undefinedNumber
  /-- A value that cannot be looked for among names. -/
  | unusableName (fault : NameFault)
  /-- A value that is nested too deeply to be written. -/
  | tooDeep
  /-- An integer with too many digits to be written. -/
  | overlongNumber
  deriving DecidableEq

/-- Read a value as a number. A double stands for the decimal that its shortest text writes; a text
must write a finite number. -/
def decimal? : Value → Option Decimal
  | .decimal number => some number
  | .int number => some (.ofInt number)
  | .float number => Decimal.ofText? number.text
  | .text content =>
    match Decimal.ofText? content with
    | some number => if number.isFinite then some number else none
    | none => none
  | _ => none

/-- Read a value as a date; the time of a moment or a text is ignored. -/
def date? : Value → Option Date
  | .moment instant => some instant.date
  | .date day => some day
  | .text content => Iso.date? content
  | _ => none

/-- The integer that a decimal equals, if it is whole. -/
def wholeNumber : Decimal → Except Refusal (Option Int)
  | .finite negative coefficient exponent =>
    .ok (Decimal.whole? negative coefficient exponent)
  | .infinite _ => .error (.outOfRange .infiniteDecimal)
  | .nan _ signaling _ => if signaling then .error .undefinedNumber else .ok none

/-- Read a value as an integer. -/
def int? : Value → Except Refusal (Option Int)
  | .int number => .ok (some number)
  | value =>
    match value.decimal? with
    | some number => wholeNumber number
    | none => .ok none

/-- Why a value cannot be looked for among names, if it cannot. -/
def nameFault? : Value → Option NameFault
  | .list _ => some .list
  | .record _ => some .record
  | .decimal number => if number.isSignaling then some .signalingNumber else none
  | _ => none

/-- A value that is looked for among names: a text or none of them. -/
def asName (value : Value) : Except Refusal (Option String) :=
  match value.nameFault?, value with
  | some fault, _ => .error (.unusableName fault)
  | none, .text name => .ok (some name)
  | none, _ => .ok none

end Herald.Value
