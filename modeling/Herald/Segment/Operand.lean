import Herald.Attribute.Operator
import Herald.Segment.Test

/-! # Reading operands

Every operator documents the form of its operand. An operand of another form is refused with a
sentence that says what is expected; the rule of an operator turns a good one into a test.
-/

namespace Herald

open Value (Refusal)

/-- Why an operand is not usable. -/
inductive OperandProblem
  | malformed (message : String)
  | refused (refusal : Refusal)

namespace Operand

abbrev Read (α : Type) := Except OperandProblem α

def malformed {α : Type} (message : String) : Read α := .error (.malformed message)

/-- The text of a value. -/
def written (value : Value) : Read String := value.written.mapError .refused

/-- Any value but null, as text. -/
def text (value : Value) : Read String :=
  if value.isNull then malformed "a value is required" else written value

def number (value : Value) : Read Decimal :=
  match value.decimal? with
  | some number => .ok number
  | none => malformed "a numeric value is required"

/-- A record with a `min` and a `max`. -/
def range (value : Value) : Read (Decimal × Decimal) :=
  match value.field? "min", value.field? "max" with
  | some low, some high => do return (← number low, ← number high)
  | _, _ => malformed "between expects \x7b'min': ..., 'max': ...\x7d"

/-- An integer, alone or as the `days` of a record. -/
def days (value : Value) : Read Int :=
  let value := match value with
    | .record fields => Fields.getOrNull fields "days"
    | value => value
  match value.int? with
  | .ok (some days) => .ok days
  | .ok none => malformed "an integer day count is required"
  | .error refusal => .error (.refused refusal)

def date (value : Value) : Read Date :=
  match value.date? with
  | some date => .ok date
  | none => malformed "an ISO date is required"

/-- The distinct texts of a list; any other value is a list of itself. -/
def options : Value → Read (List String)
  | .null => malformed "a list of values is required"
  | .list items => (items.mapM written).map List.eraseDups
  | value => (written value).map ([·])

/-- The relations that a count may be compared with, by the name of their operator. -/
def countRelations : List (String × Relation) :=
  [("equals", .equal), ("greater_than", .greater), ("greater_than_or_equal", .atLeast),
    ("less_than", .less), ("less_than_or_equal", .atMost), ("not_equals", .different)]

/-- A record with an `operator` and a `value`. -/
def count (value : Value) : Read (Relation × Int) :=
  match value with
  | .record fields => do
    let name? ← (Fields.getOrNull fields "operator").asName.mapError .refused
    match name?.bind (List.lookup · countRelations) with
    | none =>
      let names := AttributeSpec.reportTexts (countRelations.map Prod.fst)
      malformed s!"count operator must be one of {names}"
    | some relation =>
      match (Fields.getOrNull fields "value").int? with
      | .ok (some size) => .ok (relation, size)
      | .ok none => malformed "count value must be an integer"
      | .error refusal => .error (.refused refusal)
  | _ => malformed "count expects \x7b'operator': ..., 'value': ...\x7d"

/-- The wanted texts, alone or as the `values` of a record that may name a `property`. -/
def membership (value : Value) : Read (Value × List String) :=
  let (property, wanted) := match value with
    | .record fields => (Fields.getOrNull fields "property", Fields.getOrNull fields "values")
    | value => (.null, value)
  match options wanted with
  | .error problem => .error problem
  | .ok [] => malformed "at least one value is required"
  | .ok texts => .ok (property, texts)

/-- The property that holds an expiry date, unless a record names another one. -/
def expiryProperty : Value → Value
  | .record fields =>
    let property := Fields.getOrNull fields "property"
    if property.isTruthy then property else .text "expiry"
  | _ => .text "expiry"

/-- A date, alone or as the `date` of a record. -/
def propertyDate (value : Value) : Read Date :=
  match value with
  | .record fields => date (Fields.getOrNull fields "date")
  | value => date value

/-- The rule of an operator on texts. -/
def textTest (relation : TextRelation) (value : Value) : Read Test :=
  (text value).map (Test.text relation)

/-- The rule of an operator on numbers. -/
def numberTest (relation : Relation) (value : Value) : Read Test :=
  (number value).map (Test.number relation)

/-- The rule of an operator on a number of days to come. -/
def inDaysTest (relation : Relation) (value : Value) : Read Test :=
  (days value).map (Test.inDays relation)

/-- The rule of an operator on a number of days gone by. -/
def daysAgoTest (relation : Relation) (value : Value) : Read Test :=
  (days value).map (Test.daysAgo relation)

/-- The rule of an operator on a calendar date. -/
def datedTest (relation : Relation) (value : Value) : Read Test :=
  (date value).map (Test.dated relation)

/-- The rule of a membership operator. -/
def memberTest (test : Value → List String → Test) (value : Value) : Read Test :=
  (membership value).map fun (property, wanted) => test property wanted

/-- The rule of an operator on the expiry dates of list elements. -/
def expiryTest (test : Value → Int → Test) (value : Value) : Read Test :=
  (days value).map (test (expiryProperty value))

/-- The test of an operator on attributes of a kind. More days ago is an earlier date, so the
relations of the days-ago operators are turned around. -/
def test (kind : AttributeKind) (operator : Operator) (value : Value) : Read Test :=
  match kind, operator with
  | .number, .equals => numberTest .equal value
  | .number, .notEquals => numberTest .different value
  | _, .equals => textTest .same value
  | _, .notEquals => textTest .different value
  | _, .contains => textTest .contains value
  | _, .notContains => textTest .lacks value
  | _, .startsWith => textTest .startsWith value
  | _, .endsWith => textTest .endsWith value
  | _, .isSet => .ok .present
  | _, .isNotSet => .ok .absent
  | _, .greaterThan => numberTest .greater value
  | _, .lessThan => numberTest .less value
  | _, .greaterThanOrEqual => numberTest .atLeast value
  | _, .lessThanOrEqual => numberTest .atMost value
  | _, .between => (range value).map fun (low, high) => .between low high
  | _, .expiresInDaysEq => inDaysTest .equal value
  | _, .expiresInDaysGt => inDaysTest .greater value
  | _, .expiresInDaysGte => inDaysTest .atLeast value
  | _, .expiresInDaysLt => inDaysTest .less value
  | _, .expiresInDaysLte => inDaysTest .atMost value
  | _, .daysAgoEq => daysAgoTest .equal value
  | _, .daysAgoGt => daysAgoTest .less value
  | _, .daysAgoGte => daysAgoTest .atMost value
  | _, .daysAgoLt => daysAgoTest .greater value
  | _, .daysAgoLte => daysAgoTest .atLeast value
  | _, .expiresWithin => (days value).map .within
  | _, .expiredSince => (days value).map .since
  | _, .equalsDate => datedTest .equal value
  | _, .before => datedTest .less value
  | _, .after => datedTest .greater value
  | _, .isTrue => .ok .isTrue
  | _, .isFalse => .ok .isFalse
  | _, .isIn => (options value).map .oneOf
  | _, .notIn => (options value).map .noneOf
  | _, .count => (count value).map fun (relation, size) => .count relation size
  | _, .notEmpty => .ok .filled
  | _, .isEmpty => .ok .empty
  | _, .anyOf => memberTest .anyMember value
  | _, .allOf => memberTest .allMembers value
  | _, .noneOf => memberTest .noMember value
  | _, .exists => (text value).map .hasElement
  | _, .anyExpiryInDays => expiryTest .anyExpiryInDays value
  | _, .anyExpiryWithin => expiryTest .anyExpiryWithin value
  | _, .anyExpiryExpiredSince => expiryTest .anyExpirySince value
  | _, .anyExpiryAfter => (propertyDate value).map (.anyExpiryAfter (expiryProperty value))
  | _, .anyExpiryToday => .ok (.anyExpiryToday (expiryProperty value))

end Operand

end Herald
