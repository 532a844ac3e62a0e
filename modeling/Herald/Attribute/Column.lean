import Herald.Attribute.Registry
import Herald.Store.Column
import Herald.Store.RowPart

/-! # The columns of a definition

A definition row can be inserted column by column, without being a declaration of any attribute. A
column that is left out, or null, has its default; the key and the kind have none.
-/

namespace Herald.Definition

variable {σ α : Type}

/-- The columns, in the order of the table. -/
def columns : List (Column Definition) :=
  [.reading "id" Column.rowId fun row id => { row with id },
    .wordNamed "tenant_id" fun row tenant => { row with tenant },
    .instantNamed "created_at" fun row createdAt => { row with createdAt },
    .instantNamed "updated_at" fun row updatedAt => { row with updatedAt },
    .wordNamed "target_type" fun row target => { row with target },
    .wordNamed "attribute_key" fun row key => { row with key },
    .wordNamed "attribute_type" fun row kind => { row with kind },
    .textNamed "label" fun row label => { row with label },
    .flagNamed "required" fun row required => { row with required },
    .dataNamed "options" fun row options => { row with options },
    .textNamed "item_type" fun row itemType => { row with itemType },
    .dataNamed "properties" fun row properties => { row with properties }]

/-- Why a field cannot be part of a row: it is no column and no other part, or a part that takes no
value. -/
def refusal? (name : String) (value : Value) : Option Failure :=
  if Column.isAmong columns name then none
  else if (RowPart.ofNameUnique? name).isSome then RowPart.refusal? name value
  else some .unexpectedField

/-- A row with the default of every column that has one. -/
def blank (id : Int) (now : Moment) : Definition :=
  ⟨id, "default", "customer", "", "", none, false, .null, none, .null, now, now⟩

/-- The columns that are written: null stands for a default, and what has none is written always. -/
def writtenFields (fields : Fields) : Fields :=
  ["attribute_key", "attribute_type"].foldl
    (fun written name => written.put name (written.getOrNull name))
    (fields.filter fun field => !field.2.isNull)

/-- The tables with a row inserted that some changes make of a blank one, and its id. -/
def insertIn (changes : Except Failure (Definition → Definition)) (now : Moment)
    (store : Store α) : Except Failure (Int × Store α) := do
  let row := (← changes) (blank (nextId (store.definitions.map Definition.id)) now)
  if store.definitions.any fun other =>
      other.id == row.id || other.isFor row.tenant row.target row.key then
    throw .refusedRow
  return (row.id, { store with
    definitions := insertById Definition.id row store.definitions })

/-- Insert a row of loose columns, and tell its id. -/
def insert (fields : Fields) : Run σ α Int := do
  if let some refusal := fields.findSome? fun field => refusal? field.1 field.2 then throw refusal
  let now ← Run.clock
  let changes := Column.changes columns (writtenFields fields)
  let _ ← Run.pure? (Column.before 1 changes)
  Run.commit (insertIn changes now)

end Herald.Definition
