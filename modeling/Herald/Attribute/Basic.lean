import Herald.Form

/-! # Attributes of targets

A target is a customer or a service. Every target has built-in attributes, which are columns of
its own; a tenant declares further ones, each with a kind, and their values live in the target's
data map.
-/

namespace Herald

/-- What campaigns are addressed to. -/
inductive TargetKind
  | customer
  | service
  deriving DecidableEq

namespace TargetKind

def name : TargetKind → String
  | .customer => "customer"
  | .service => "service"

def ofName? (name : String) : Option TargetKind :=
  [TargetKind.customer, .service].find? fun kind => kind.name == name

end TargetKind

/-- The declared kind of an attribute. -/
inductive AttributeKind
  | string
  | number
  | date
  | boolean
  | enumeration
  | array
  deriving DecidableEq

namespace AttributeKind

def all : List AttributeKind := [.string, .number, .date, .boolean, .enumeration, .array]

def name : AttributeKind → String
  | .string => "string"
  | .number => "number"
  | .date => "date"
  | .boolean => "boolean"
  | .enumeration => "enum"
  | .array => "array"

def ofName? (name : String) : Option AttributeKind :=
  all.find? fun kind => kind.name == name

/-- The kind of a stored word; integers are stored as a kind of number. -/
def ofStored? (word : String) : Option AttributeKind :=
  if word == "integer" then some .number else ofName? word

end AttributeKind

/-- The declaration of one attribute. -/
structure AttributeSpec where
  key : String
  kind : AttributeKind
  required : Bool
  label : Option String
  options : Option (List String)
  itemType : Option String
  properties : Option (List String)
  builtin : Bool
  deriving DecidableEq

namespace AttributeSpec

/-- Whether a character may stand in an attribute's key or a template variable. -/
def isKeyChar (c : Char) : Bool :=
  ('a' ≤ c && c ≤ 'z') || ('A' ≤ c && c ≤ 'Z') || ('0' ≤ c && c ≤ '9') || c == '_'

def isKey (key : String) : Bool :=
  !key.isEmpty && key.toList.all isKeyChar

/-- Read a declaration from a form. -/
def ofForm (fields : Fields) : Checked AttributeSpec :=
  AttributeSpec.mk
    <$> Form.required fields "key" (Form.formedText isKey)
    <*> Form.required fields "type" (Form.choice AttributeKind.ofName?)
    <*> Form.withDefault fields "required" false Form.boolean
    <*> Form.nullable fields "label" Form.text
    <*> Form.nullable fields "options" (Form.list Form.text)
    <*> Form.nullable fields "item_type" Form.text
    <*> Form.nullable fields "properties" (Form.list Form.text)
    <*> Form.withDefault fields "builtin" false Form.boolean

/-- The declaration of a built-in attribute. -/
def ofBuiltin (key : String) (kind : AttributeKind) : AttributeSpec :=
  ⟨key, kind, false, none, none, none, none, true⟩

/-- A list of texts as a report shows it. -/
def reportTexts (texts : List String) : String :=
  String.ofList (Value.reportChars (.list (texts.map Value.text)))

/-- What is wrong with a stored value, if anything: it does not have the declared kind. -/
def problem? (spec : AttributeSpec) (value : Value) : Option String :=
  match spec.kind, value with
  | .string, .text _ => none
  | .string, _ => some "expected a string"
  | .number, value => if value.decimal?.isSome then none else some "expected a number"
  | .date, value => if value.date?.isSome then none else some "expected an ISO date"
  | .boolean, .bool _ => none
  | .boolean, _ => some "expected a boolean"
  | .enumeration, .text chosen =>
    let options := spec.options.getD []
    if options.isEmpty || options.contains chosen then none
    else some s!"expected one of {reportTexts options}"
  | .enumeration, _ => some "expected a string option"
  | .array, .list items =>
    let isRecord := fun item => match item with
      | Value.record _ => true
      | _ => false
    if spec.itemType == some "object" && !items.all isRecord then
      some "expected a list of objects"
    else none
  | .array, _ => some "expected a list"

end AttributeSpec

/-- The built-in attributes of every target. -/
def customerBuiltins : List AttributeSpec :=
  [.ofBuiltin "id" .number, .ofBuiltin "external_id" .string, .ofBuiltin "name" .string,
    .ofBuiltin "phone" .string, .ofBuiltin "email" .string, .ofBuiltin "created_at" .date,
    .ofBuiltin "updated_at" .date]

/-- The built-in attributes of a kind of target. -/
def TargetKind.builtins : TargetKind → List AttributeSpec
  | .customer => customerBuiltins
  | .service => customerBuiltins ++
    [.ofBuiltin "expiry_at" .date, .ofBuiltin "status" .string,
      .ofBuiltin "days_until_expiry" .number]

/-- Whether a key is a built-in attribute of a kind of target. -/
def TargetKind.hasBuiltin (kind : TargetKind) (key : String) : Bool :=
  kind.builtins.any fun spec => spec.key == key

end Herald
