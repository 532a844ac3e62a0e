import Herald.Number.Binary64
import Herald.Number.Decimal
import Herald.Calendar.Iso
import Herald.Text.Quoted

/-! # Attribute values

Tenants store whatever their own systems hold, so the value of an attribute is dynamic: nothing, a
truth value, a number of any of three kinds, a text, a date or moment, a list, or a record with
ordered fields. This module holds the values, their two texts, and how a record is looked up and
extended. A record that is built with `Fields.put` has every name once, at the place of its first
mention.
-/

namespace Herald

/-- A loosely typed value. -/
inductive Value
  | null
  | bool (flag : Bool)
  | int (number : Int)
  | float (number : Binary64)
  | decimal (number : Decimal)
  | text (content : String)
  | date (day : Date)
  | moment (instant : Moment)
  | list (items : List Value)
  | record (fields : List (String × Value))
  deriving BEq

/-- Named values in order. -/
abbrev Fields := List (String × Value)

namespace Fields

/-- The value of a name. -/
def get? (fields : Fields) (name : String) : Option Value :=
  match fields.find? fun field => field.1 == name with
  | some field => some field.2
  | none => none

/-- Give a name a value, at its old place if it has one and at the end otherwise. -/
def put (fields : Fields) (name : String) (value : Value) : Fields :=
  match fields with
  | [] => [(name, value)]
  | field :: rest =>
    if field.1 == name then (name, value) :: rest else field :: put rest name value

/-- Give several names values, from left to right. -/
def putAll (fields entries : Fields) : Fields :=
  entries.foldl (fun fields entry => fields.put entry.1 entry.2) fields

def names (fields : Fields) : List String := fields.map Prod.fst

/-- The value of a name, a missing one counting as null. -/
def getOrNull (fields : Fields) (name : String) : Value := (fields.get? name).getD .null

end Fields

namespace Value

def ofText (content : String) : Value := .text content

def ofTextOption : Option String → Value
  | some content => .text content
  | none => .null

/-- Whether the value counts as nothing: null. -/
def isNull : Value → Bool
  | .null => true
  | _ => false

/-- Whether the value counts as true where any value may stand: null, false, zeros and everything
empty do not. -/
def isTruthy : Value → Bool
  | .null => false
  | .bool flag => flag
  | .int number => number != 0
  | .float number => !number.eq Binary64.zero
  | .decimal number => !number.isZero
  | .text content => !content.isEmpty
  | .date _ => true
  | .moment _ => true
  | .list items => !items.isEmpty
  | .record fields => !fields.isEmpty

/-- The field of a record; nothing for a value of another kind. -/
def field? : Value → String → Option Value
  | .record fields, name => Fields.get? fields name
  | _, _ => none

/-! ## Data text -/

/-- A double in data text, where the values that are not numbers have names of their own. -/
def floatData : Binary64 → List Char
  | .nan => "NaN".toList
  | .infinite negative => (if negative then "-Infinity" else "Infinity").toList
  | number => number.text.toList

mutual

/-- The data text of a value: a blank after every comma and colon, and values without a form of
their own as quoted text. -/
def dataChars : Value → List Char
  | .null => "null".toList
  | .bool flag => (if flag then "true" else "false").toList
  | .int number => Text.intText number
  | .float number => floatData number
  | .decimal number => Text.dataQuoted number.text.toList
  | .text content => Text.dataQuoted content.toList
  | .date day => Text.dataQuoted day.isoChars
  | .moment instant => Text.dataQuoted (instant.isoChars ' ')
  | .list items => ['['] ++ Text.joined [',', ' '] (itemsData items) ++ [']']
  | .record fields => ['\x7b'] ++ Text.joined [',', ' '] (fieldsData fields) ++ ['\x7d']

/-- The data texts of the items of a list. -/
def itemsData : List Value → List (List Char)
  | [] => []
  | item :: rest => dataChars item :: itemsData rest

/-- The data texts of the fields of a record. -/
def fieldsData : List (String × Value) → List (List Char)
  | [] => []
  | (name, value) :: rest =>
    (Text.dataQuoted name.toList ++ [':', ' '] ++ dataChars value) :: fieldsData rest

end

/-- The text of a stored value, as templates show it and text operators compare it: nothing for
null, and data text for lists and records. -/
def shown : Value → String
  | .null => ""
  | .bool flag => if flag then "true" else "false"
  | .int number => String.ofList (Text.intText number)
  | .float number => number.text
  | .decimal number => number.text
  | .text content => content
  | .date day => day.iso
  | .moment instant => instant.spaced
  | .list items => String.ofList (dataChars (.list items))
  | .record fields => String.ofList (dataChars (.record fields))

/-! ## Report text -/

/-- The name of a value's kind in a report. -/
def kindName : Value → String
  | .null => "NoneType"
  | .bool _ => "bool"
  | .int _ => "int"
  | .float _ => "float"
  | .decimal _ => "decimal.Decimal"
  | .text _ => "str"
  | .date _ => "datetime.date"
  | .moment _ => "datetime.datetime"
  | .list _ => "list"
  | .record _ => "dict"

/-- A call-like report of a value that has no notation of its own. -/
def reportCall (name : String) (parts : List (List Char)) : List Char :=
  name.toList ++ ['('] ++ Text.joined [',', ' '] parts ++ [')']

/-- A date in a report. -/
def reportDate (day : Date) : List (List Char) :=
  let (month, dayOfMonth) := day.monthDay
  [Text.natText day.year, Text.natText month, Text.natText dayOfMonth]

/-- The clock reading of a moment in a report: seconds and microseconds only when they count. -/
def reportClock (instant : Moment) : List (List Char) :=
  [Text.natText instant.hour, Text.natText instant.minute] ++
    (if instant.second = 0 ∧ instant.microsecond = 0 then [] else [Text.natText instant.second]) ++
    (if instant.microsecond = 0 then [] else [Text.natText instant.microsecond])

mutual

/-- The report text of a value, as the details of a failure list it. -/
def reportChars : Value → List Char
  | .null => "None".toList
  | .bool flag => (if flag then "True" else "False").toList
  | .int number => Text.intText number
  | .float number => number.text.toList
  | .decimal number => reportCall "Decimal" [Text.reportQuoted number.text.toList]
  | .text content => Text.reportQuoted content.toList
  | .date day => reportCall "datetime.date" (reportDate day)
  | .moment instant =>
    reportCall "datetime.datetime" (reportDate instant.date ++ reportClock instant)
  | .list items => ['['] ++ Text.joined [',', ' '] (itemsReport items) ++ [']']
  | .record fields => ['\x7b'] ++ Text.joined [',', ' '] (fieldsReport fields) ++ ['\x7d']

/-- The report texts of the items of a list. -/
def itemsReport : List Value → List (List Char)
  | [] => []
  | item :: rest => reportChars item :: itemsReport rest

/-- The report texts of the fields of a record. -/
def fieldsReport : List (String × Value) → List (List Char)
  | [] => []
  | (name, value) :: rest =>
    (Text.reportQuoted name.toList ++ [':', ' '] ++ reportChars value) :: fieldsReport rest

end

/-- The text of a value inside a sentence: a text as it is, everything else as in a report. -/
def inSentence : Value → String
  | .text content => content
  | .decimal number => number.text
  | .date day => day.iso
  | .moment instant => instant.spaced
  | value => String.ofList (reportChars value)

end Value

end Herald
