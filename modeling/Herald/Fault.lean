/-! # Faults of values

Why a number, a date or a value of some kind cannot be used where it stands. A fault says only that;
which operation of the engine fails because of it is told elsewhere.
-/

namespace Herald

/-- A number, date or length of time outside its range. -/
inductive RangeFault
  /-- A date before the first one or behind the last one. -/
  | date
  /-- A length of time of so many whole days, more than there can be. -/
  | duration (days : Int)
  /-- An infinite decimal where an integer is needed. -/
  | infiniteDecimal
  /-- An infinite double where an integer is needed. -/
  | infiniteDouble
  /-- An integer that is too large for a column. -/
  | column
  /-- An hour above all machine integers of its size. -/
  | highHour
  /-- An hour below all machine integers of its size. -/
  | lowHour
  deriving DecidableEq

/-- The most days of a length of time, in either direction. -/
def longestDuration : Nat := 999999999

/-- The largest machine integer that days and hours are passed as. -/
def largestWord : Int := 2147483647

/-- Whether an integer is a machine integer of the size of days and hours. -/
def isWord (number : Int) : Bool := -largestWord - 1 ≤ number ∧ number ≤ largestWord

namespace RangeFault

/-- The fault of a length of time that leads out of the calendar. -/
def ofDuration (days : Int) : RangeFault :=
  if days.natAbs ≤ longestDuration then .date else .duration days

/-- What a fault of a range says. -/
def sentence : RangeFault → String
  | .date => "date value out of range"
  | .duration days =>
    if isWord days then s!"days={days}; must have magnitude <= {longestDuration}"
    else "Python int too large to convert to C int"
  | .infiniteDecimal => "cannot convert Infinity to integer"
  | .infiniteDouble => "cannot convert float infinity to integer"
  | .column => "Python int too large to convert to SQLite INTEGER"
  | .highHour => "signed integer is greater than maximum"
  | .lowHour => "signed integer is less than minimum"

end RangeFault

/-- A value that cannot be looked for among names. -/
inductive NameFault
  | list
  | record
  | signalingNumber
  deriving DecidableEq

/-- What a fault of a name says. -/
def NameFault.sentence : NameFault → String
  | .list => "unhashable type: 'list'"
  | .record => "unhashable type: 'dict'"
  | .signalingNumber => "Cannot hash a signaling NaN value"

/-- A value of a kind for which an operation is not defined. -/
inductive KindFault
  /-- A text that should be ordered with a number. -/
  | unorderedText
  /-- A text where a number of units of time is needed. -/
  | textOf (unit : String)
  /-- A value of a kind where a whole hour is needed. -/
  | hour (kind : String)
  /-- A number and a text that should be added. -/
  | mixedSum
  /-- An answer without the text that a part is taken of. -/
  | missingText
  /-- A value of a kind where a text is needed to show its beginning. -/
  | noBeginning (kind : String)
  deriving DecidableEq

/-- What a fault of a kind says. -/
def KindFault.sentence : KindFault → String
  | .unorderedText => "'<=' not supported between instances of 'str' and 'int'"
  | .textOf unit => s!"unsupported type for timedelta {unit} component: str"
  | .hour kind => s!"'{kind}' object cannot be interpreted as an integer"
  | .mixedSum => "unsupported operand type(s) for +: 'int' and 'str'"
  | .missingText => "'NoneType' object is not subscriptable"
  | .noBeginning kind =>
    if kind == "list" then "can only concatenate list (not \"str\") to list"
    else if kind == "dict" then "unhashable type: 'slice'"
    else s!"object of type '{kind}' has no len()"

end Herald
