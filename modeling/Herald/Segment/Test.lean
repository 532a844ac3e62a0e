import Herald.Number.Written
import Herald.Value.Depth

/-! # Tests of a stored value

A condition of a compiled filter is a test: a relation and an operand that has been read already.
What a test says about a stored value depends on that value and on the date of the day alone. A
value that cannot be read as the test needs it does not match; only a comparison with something
that is not a number, a date outside the calendar, a property that cannot be a name, or a value that
is too deep for a text is refused.
-/

namespace Herald

open Value (Refusal)

/-- A relation between two ordered things. -/
inductive Relation
  | equal
  | different
  | greater
  | less
  | atLeast
  | atMost
  deriving DecidableEq

namespace Relation

/-- Whether a relation holds of two things in the given order. -/
def allows : Relation → Ordering → Bool
  | .equal, order => order == .eq
  | .different, order => order != .eq
  | .greater, order => order == .gt
  | .less, order => order == .lt
  | .atLeast, order => order != .lt
  | .atMost, order => order != .gt

/-- Whether a relation holds of two dates. -/
def holdsOfDates (relation : Relation) (a b : Date) : Bool :=
  relation.allows (compare a.day b.day)

/-- Whether a relation holds of two integers. -/
def holdsOfInts (relation : Relation) (a b : Int) : Bool :=
  relation.allows (compare a b)

/-- Whether a relation holds of two numbers. What is not a number differs from everything, and
has no place in an order. -/
def holdsOfNumbers (relation : Relation) (a b : Decimal) : Except Refusal Bool :=
  match a.order? b, relation with
  | some order, relation => .ok (relation.allows order)
  | none, .equal => if a.isSignaling || b.isSignaling then .error .undefinedNumber else .ok false
  | none, .different =>
    if a.isSignaling || b.isSignaling then .error .undefinedNumber else .ok true
  | none, _ => .error .undefinedNumber

end Relation

/-- A relation between two texts. -/
inductive TextRelation
  | same
  | different
  | contains
  | lacks
  | startsWith
  | endsWith
  deriving DecidableEq

/-- Whether a text occurs inside another one. -/
def occursIn (part : List Char) : List Char → Bool
  | [] => part.isEmpty
  | c :: rest => part.isPrefixOf (c :: rest) || occursIn part rest

/-- Whether a relation holds of a stored text and an operand. -/
def TextRelation.holds (relation : TextRelation) (stored operand : String) : Bool :=
  match relation with
  | .same => stored == operand
  | .different => stored != operand
  | .contains => occursIn operand.toList stored.toList
  | .lacks => !occursIn operand.toList stored.toList
  | .startsWith => operand.toList.isPrefixOf stored.toList
  | .endsWith => operand.toList.isSuffixOf stored.toList

/-- A test of a stored value. -/
inductive Test
  | present
  | absent
  | text (relation : TextRelation) (operand : String)
  | oneOf (options : List String)
  | noneOf (options : List String)
  | number (relation : Relation) (operand : Decimal)
  | between (low high : Decimal)
  | inDays (relation : Relation) (days : Int)
  | daysAgo (relation : Relation) (days : Int)
  | dated (relation : Relation) (operand : Date)
  | within (days : Int)
  | since (days : Int)
  | isTrue
  | isFalse
  | count (relation : Relation) (size : Int)
  | filled
  | empty
  | anyMember (property : Value) (wanted : List String)
  | allMembers (property : Value) (wanted : List String)
  | noMember (property : Value) (wanted : List String)
  | hasElement (operand : String)
  | anyExpiryInDays (property : Value) (days : Int)
  | anyExpiryWithin (property : Value) (days : Int)
  | anyExpirySince (property : Value) (days : Int)
  | anyExpiryAfter (property : Value) (operand : Date)
  | anyExpiryToday (property : Value)

namespace Test

/-- Why a number cannot be written out, if it cannot. -/
def numberFault? (number : Int) : Option Refusal :=
  if Number.isOverlong number then some .overlongNumber else none

/-- Why the name of a property cannot be written out, if it cannot. -/
def depthFault? (name : Value) : Option Refusal := if name.isTooDeep then some .tooDeep else none

/-- Why the operand of a test cannot be written out, if it cannot. -/
def fault? : Test → Option Refusal
  | .inDays _ days => numberFault? days
  | .daysAgo _ days => numberFault? days
  | .within days => numberFault? days
  | .since days => numberFault? days
  | .count _ size => numberFault? size
  | .anyMember name _ => depthFault? name
  | .allMembers name _ => depthFault? name
  | .noMember name _ => depthFault? name
  | .anyExpiryInDays name days => (depthFault? name).or (numberFault? days)
  | .anyExpiryWithin name days => (depthFault? name).or (numberFault? days)
  | .anyExpirySince name days => (depthFault? name).or (numberFault? days)
  | .anyExpiryAfter name _ => depthFault? name
  | .anyExpiryToday name => depthFault? name
  | _ => none

/-- The date a number of days after a day. -/
def daysAfter (today : Date) (days : Int) : Except Refusal Date :=
  (today.later days).mapError .outOfRange

/-- The date a number of days before a day. -/
def daysBefore (today : Date) (days : Int) : Except Refusal Date :=
  (today.earlier days).mapError .outOfRange

/-- Whether a stored date is related to a day that is worked out only when it is needed. -/
def againstDate (relation : Relation) (stored : Value) (day : Except Refusal Date) :
    Except Refusal Bool :=
  match stored.date? with
  | none => .ok false
  | some date => day.map fun day => relation.holdsOfDates date day

/-- Whether a date lies between two days, the ends included. -/
def isBetween (first last date : Date) : Bool := first.day ≤ date.day ∧ date.day ≤ last.day

/-- The property of a record in a list; a missing one is null. Only a text can be a name. -/
def property (name : Value) (fields : Fields) : Except Refusal Value :=
  name.asName.map fun
    | some name => fields.getOrNull name
    | none => .null

/-- The texts of the elements of a list that membership looks at: the named property of the
records that have it, or without a name every element that is neither a record nor a list. -/
def elementTexts (name : Value) : List Value → Except Refusal (List String)
  | [] => .ok []
  | .record fields :: rest =>
    if name.isNull then elementTexts name rest
    else do
      let value ← property name fields
      if value.isNull then elementTexts name rest
      else return (← value.written) :: (← elementTexts name rest)
  | .list _ :: rest => elementTexts name rest
  | item :: rest =>
    if name.isNull then (elementTexts name rest).map (item.shown :: ·)
    else elementTexts name rest

/-- The readable dates under a property of the records of a list. -/
def expiryDates (name : Value) : List Value → Except Refusal (List Date)
  | [] => .ok []
  | .record fields :: rest => do
    let value ← property name fields
    let dates ← expiryDates name rest
    return match value.date? with
      | some date => date :: dates
      | none => dates
  | _ :: rest => expiryDates name rest

/-- Whether a list has an element of the given text, or a record with a property of that name. -/
def hasElementNamed (operand : String) : List Value → Except Refusal Bool
  | [] => .ok false
  | .record fields :: rest =>
    if (Fields.getOrNull fields operand).isNull then hasElementNamed operand rest else .ok true
  | item :: rest => do
    if (← item.written) == operand then return true else hasElementNamed operand rest

/-- What a test says about the elements of a list; other tests say no. -/
def holdsOfList (test : Test) (items : List Value) (today : Date) : Except Refusal Bool :=
  match test with
  | .count relation size => .ok (relation.holdsOfInts items.length size)
  | .filled => .ok (!items.isEmpty)
  | .anyMember name wanted =>
    (elementTexts name items).map fun texts => texts.any (wanted.contains ·)
  | .allMembers name wanted =>
    (elementTexts name items).map fun texts => wanted.all (texts.contains ·)
  | .noMember name wanted =>
    (elementTexts name items).map fun texts => !texts.any (wanted.contains ·)
  | .hasElement operand => hasElementNamed operand items
  | .anyExpiryInDays name days => do
    let day ← daysAfter today days
    (expiryDates name items).map fun dates => dates.any fun date => date.day == day.day
  | .anyExpiryWithin name days => do
    let last ← daysAfter today days
    (expiryDates name items).map fun dates => dates.any (isBetween today last)
  | .anyExpirySince name days => do
    let first ← daysBefore today days
    (expiryDates name items).map fun dates => dates.any (isBetween first today)
  | .anyExpiryAfter name operand =>
    (expiryDates name items).map fun dates => dates.any fun date => operand.day < date.day
  | .anyExpiryToday name =>
    (expiryDates name items).map fun dates => dates.any fun date => date.day == today.day
  | _ => .ok false

/-- Whether a test holds of a stored value on a day. -/
def holds (test : Test) (stored : Value) (today : Date) : Except Refusal Bool :=
  match test with
  | .present => .ok true
  | .absent => .ok stored.isNull
  | .text relation operand => stored.written.map (relation.holds · operand)
  | .oneOf options => stored.written.map options.contains
  | .noneOf options => stored.written.map fun text => !options.contains text
  | .number relation operand =>
    match stored.decimal? with
    | some found => relation.holdsOfNumbers found operand
    | none => .ok false
  | .between low high =>
    match stored.decimal? with
    | none => .ok false
    | some found => do
      if ← Relation.atMost.holdsOfNumbers low found then
        Relation.atMost.holdsOfNumbers found high
      else return false
  | .inDays relation days => againstDate relation stored (daysAfter today days)
  | .daysAgo relation days => againstDate relation stored (daysBefore today days)
  | .dated relation operand => againstDate relation stored (.ok operand)
  | .within days =>
    match stored.date? with
    | none => .ok false
    | some date =>
      if days ≤ 0 then .ok true
      else if date.day < today.day then .ok false
      else (daysAfter today days).map fun last => decide (date.day ≤ last.day)
  | .since days =>
    match stored.date? with
    | none => .ok false
    | some date =>
      if days ≤ 0 then .ok true
      else do
        let first ← daysBefore today days
        return isBetween first today date
  | .isTrue => .ok (match stored with
    | .bool flag => flag
    | _ => false)
  | .isFalse => .ok (match stored with
    | .bool flag => !flag
    | _ => false)
  | .empty => .ok (match stored with
    | .null => true
    | .list items => items.isEmpty
    | _ => false)
  | test =>
    match stored with
    | .list items => test.holdsOfList items today
    | _ => .ok false

end Test

end Herald
