import Herald.Attribute.Schema
import Herald.Value.Same

/-! # Stored attribute definitions

A tenant's attributes are rows, one for each key and kind of target. A row is written from a
checked declaration, and read back into one; a row that was written by other means may turn out not
to be a declaration at all.
-/

namespace Herald

/-- A stored declaration of an attribute. The kind of target and of attribute are stored words. -/
structure Definition where
  id : Int
  tenant : String
  target : String
  key : String
  kind : String
  label : Option String
  required : Bool
  options : Value
  itemType : Option String
  properties : Value
  createdAt : Moment
  updatedAt : Moment

namespace Definition

/-- Whether a row is about an attribute of a tenant's targets. -/
def isFor (tenant target key : String) (row : Definition) : Bool :=
  row.tenant == tenant && row.target == target && row.key == key

/-- A list of texts as it is stored. -/
def storedTexts : Option (List String) → Value
  | some texts => .list (texts.map .text)
  | none => .null

/-- The declaration as a form. -/
def toForm (row : Definition) (kind : AttributeKind) : Fields :=
  [("key", .text row.key), ("type", .text kind.name), ("required", .bool row.required),
    ("label", .ofTextOption row.label), ("options", row.options),
    ("item_type", .ofTextOption row.itemType), ("properties", row.properties)]

/-- Read the declaration of a row. -/
def toSpec (row : Definition) : Except Failure AttributeSpec :=
  let sentence := s!"Invalid definition of attribute '{row.key}'"
  match AttributeKind.ofStored? row.kind with
  | none =>
    let word := String.ofList (Text.reportQuoted row.kind.toList)
    .error (.violation (.ofKey s!"{sentence}: {word} is not a valid AttributeType" row.key))
  | some kind =>
    match AttributeSpec.ofForm (row.toForm kind) with
    | .valid spec => .ok spec
    | .refused problems =>
      .error (.violation { Violation.ofKey sentence row.key with problems := some problems })

/-- Whether a row says already what a declaration says. -/
def agrees (row : Definition) (spec : AttributeSpec) : Bool :=
  row.kind == spec.kind.name && row.label == spec.label && row.required == spec.required &&
    row.options.same (storedTexts spec.options) && row.itemType == spec.itemType &&
    row.properties.same (storedTexts spec.properties)

/-- A row with the contents of a declaration. -/
def withSpec (row : Definition) (spec : AttributeSpec) : Definition :=
  { row with
    kind := spec.kind.name, label := spec.label, required := spec.required
    options := storedTexts spec.options, itemType := spec.itemType
    properties := storedTexts spec.properties }

end Definition

end Herald
