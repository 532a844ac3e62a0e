import Herald.Form
import Herald.Value.Depth

/-! # Filters

A filter is a flat list of conditions, all or any of which must hold. It is submitted as a record
and stored as one; reading is lenient about the letter case of the logic and about the older name
of a condition's key, and a filter that counts as nothing has no condition.
-/

namespace Herald

/-- How the conditions of a filter are combined. -/
inductive Logic
  | all
  | any
  deriving DecidableEq

namespace Logic

def name : Logic → String
  | .all => "AND"
  | .any => "OR"

def ofName? (name : String) : Option Logic :=
  [Logic.all, .any].find? fun logic => logic.name == name

end Logic

/-- A condition as submitted: neither its key nor its operator needs to be known. -/
structure Condition where
  key : String
  operator : String
  value : Value
  deriving BEq

/-- A combination of conditions. -/
structure Filter where
  logic : Logic
  conditions : List Condition
  deriving BEq

namespace Condition

/-- Give a condition's key its current name. Older filters name it `field`. -/
def modernize (fields : Fields) : Fields :=
  match fields.get? "key", fields.get? "field" with
  | none, some key => Fields.put (fields.filter fun entry => entry.1 != "field") "key" key
  | _, _ => fields

def ofForm (fields : Fields) : Checked Condition :=
  let fields := modernize fields
  Condition.mk
    <$> Form.required fields "key" Form.text
    <*> Form.required fields "operator" Form.text
    <*> Checked.valid (fields.getOrNull "value")

/-- The stored form of a condition. -/
def toValue (condition : Condition) : Value :=
  .record [("key", .text condition.key), ("operator", .text condition.operator),
    ("value", condition.value)]

end Condition

namespace Filter

def empty : Filter := ⟨.all, []⟩

/-- The logic of a submitted filter, in any letter case. -/
def readLogic : Value → Checked Logic
  | .text word => Form.choice Logic.ofName? (.text (Text.uppercase word))
  | value => Form.choice Logic.ofName? value

def ofForm (fields : Fields) : Checked Filter :=
  Filter.mk
    <$> Form.withDefault fields "logic" .all readLogic
    <*> Form.withDefault fields "conditions" [] (Form.list (Form.record Condition.ofForm))

/-- Read a filter that stands for itself, such as a field of a larger form. -/
def ofValue : Value → Checked Filter := Form.record ofForm

/-- Read a filter that may be left out. -/
def ofRaw (raw : Value) : Checked Filter :=
  ofValue (if raw.isTruthy then raw else .record [])

mutual

/-- A value as it is stored with a filter: dates, moments and decimals as texts, and a double that
is not finite as null. -/
def storedValue : Value → Value
  | .float number => if number.isFinite then .float number else .null
  | .decimal number => .text number.text
  | .date day => .text day.iso
  | .moment instant => .text instant.iso
  | .list items => .list (storedItems items)
  | .record fields => .record (storedFields fields)
  | value => value

def storedItems : List Value → List Value
  | [] => []
  | item :: rest => storedValue item :: storedItems rest

def storedFields : List (String × Value) → List (String × Value)
  | [] => []
  | (name, value) :: rest => (name, storedValue value) :: storedFields rest

end

/-- Whether an operand is too deep for a filter that is submitted with a campaign. -/
def isTooDeep (filter : Filter) : Bool :=
  filter.conditions.any fun condition => Value.deepestSubmitted < condition.value.depth

/-- The stored form of a filter. -/
def toValue (filter : Filter) : Value :=
  .record [("logic", .text filter.logic.name),
    ("conditions", .list (filter.conditions.map fun condition =>
      { condition with value := storedValue condition.value }.toValue))]

end Filter

end Herald
