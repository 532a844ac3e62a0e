import Herald.Number.Significant
import Herald.Store.Amount
import Herald.Store.Cell
import Herald.Value.Same
import Herald.Value.Depth

/-! # Writing loose values into columns

A column has a type. A value of another type is turned into it where the type allows that. A write
goes through three steps, each one for all columns before the next one begins: every value is made
fit for the type of its column, the values are handed to the database one by one, and the row that
they make is checked. A failure of an earlier step hides those of the later ones.
-/

namespace Herald

/-- The step of a write in which a failure shows. -/
def Failure.step : Failure → Nat
  | .unstorable => 0
  | .refusedRow => 2
  | _ => 1

/-- A column of rows of a table: its name, and how a loose value is written into it. -/
structure Column (ρ : Type) where
  name : String
  write : Value → Except Failure (ρ → ρ)

namespace Column

/-! ## Types of columns -/

/-- A text column: numbers and times are written out, truth values as zero and one. -/
def text : Value → Except Failure (Option String)
  | .null => .ok none
  | .text content => .ok (some content)
  | .int number => (Cell.fitted number).map fun number => some (Value.int number).shown
  | .bool flag => .ok (some (if flag then "1" else "0"))
  | .float number => .ok number.columnText?
  | .date day => .ok (some day.iso)
  | .moment instant => .ok (some instant.spaced)
  | _ => .error .unsupportedValue

/-- A column of moments; a date stands for its midnight. -/
def moment : Value → Except Failure (Option Moment)
  | .null => .ok none
  | .moment instant => .ok (some instant)
  | .date day => .ok (some (.midnight day))
  | _ => .error .unstorable

/-- A column of integers. -/
def cell : Value → Except Failure (Option Cell)
  | .null => .ok none
  | .int number => (Cell.fitted number).map fun number => some (.int number)
  | .bool flag => .ok (some (.int (Value.flagInt flag)))
  | .float .nan => .ok none
  | .float number => .ok (some (.ofDouble number))
  | .text content => .ok (some (.ofText content))
  | .date day => .ok (some (.text day.iso))
  | .moment instant => .ok (some (.text instant.spaced))
  | _ => .error .unsupportedValue

/-- A column of truth values: the numbers zero and one count as such. -/
def flag : Value → Except Failure (Option Bool)
  | .null => .ok none
  | value =>
    if value.same (.bool false) then .ok (some false)
    else if value.same (.bool true) then .ok (some true)
    else .error .unstorable

/-- A column of structured data. -/
def data (value : Value) : Except Failure Value :=
  if value.isStorable && !value.isTooDeep then .ok value else .error .unstorable

/-- The double that a value is for a column of amounts. -/
def double : Value → Except Failure Binary64
  | .bool flag => .ok (.ofInt (Value.flagInt flag))
  | .float number => .ok number
  | .int number =>
    if (Binary64.ofInt number).isFinite then .ok (.ofInt number) else .error .unstorable
  | .decimal number =>
    if number.isSignaling then .error .unstorable else .ok (Number.nearestDouble number)
  | .text content =>
    match Number.doubleOfText? content with
    | some number => .ok number
    | none => .error .unstorable
  | _ => .error .unstorable

/-- A column of amounts: any number, or a text that is one. -/
def amount {α : Type} [Amount α] : Value → Except Failure (Option α)
  | .null => .ok none
  | value => do return (Value.float (← double value)).decimal?.bind Amount.ofDecimal?

/-- A column that needs a value. -/
def present {β : Type} (found : Except Failure (Option β)) : Except Failure β :=
  match found with
  | .ok (some value) => .ok value
  | .ok none => .error .refusedRow
  | .error failure => .error failure

/-- The column that identifies a row. -/
def rowId (value : Value) : Except Failure Int :=
  match cell value with
  | .ok (some (.int number)) => .ok number
  | .ok _ => .error .refusedRow
  | .error failure => .error failure

/-! ## Columns of a table -/

variable {ρ : Type}

/-- A column whose values are read in one way. -/
def reading {β : Type} (name : String) (read : Value → Except Failure β) (put : ρ → β → ρ) :
    Column ρ :=
  ⟨name, fun value => (read value).map fun read row => put row read⟩

/-- A text that may be missing. -/
def textNamed (name : String) : (ρ → Option String → ρ) → Column ρ := reading name text

/-- A text that is needed. -/
def wordNamed (name : String) : (ρ → String → ρ) → Column ρ :=
  reading name fun value => present (text value)

/-- A moment that may be missing. -/
def momentNamed (name : String) : (ρ → Option Moment → ρ) → Column ρ := reading name moment

/-- A moment that is needed. -/
def instantNamed (name : String) : (ρ → Moment → ρ) → Column ρ :=
  reading name fun value => present (moment value)

/-- An integer that may be missing. -/
def cellNamed (name : String) : (ρ → Option Cell → ρ) → Column ρ := reading name cell

/-- An integer that is needed. -/
def countNamed (name : String) : (ρ → Cell → ρ) → Column ρ :=
  reading name fun value => present (cell value)

/-- A truth value that is needed. -/
def flagNamed (name : String) : (ρ → Bool → ρ) → Column ρ :=
  reading name fun value => present (flag value)

/-- Structured data. -/
def dataNamed (name : String) : (ρ → Value → ρ) → Column ρ := reading name data

/-- An amount of money. -/
def amountNamed {α : Type} [Amount α] (name : String) : (ρ → α → ρ) → Column ρ :=
  reading name fun value => present (amount value)

/-- Whether a table has a column of a name. -/
def isAmong (columns : List (Column ρ)) (name : String) : Bool :=
  columns.any fun column => column.name == name

/-- Two parts of a write. Of two failures the one of the earlier step shows, and of the same step
the one of the earlier column. -/
def both (first rest : Except Failure (ρ → ρ)) : Except Failure (ρ → ρ) :=
  match first, rest with
  | .ok change, .ok changes => .ok fun row => changes (change row)
  | .ok _, .error failure => .error failure
  | .error failure, .ok _ => .error failure
  | .error failure, .error other => .error (if other.step < failure.step then other else failure)

/-- What fields change in a row whose table has some columns. -/
def changes (columns : List (Column ρ)) (fields : Fields) : Except Failure (ρ → ρ) :=
  match columns with
  | [] => .ok fun row => row
  | column :: rest =>
    match fields.get? column.name with
    | some value => both (column.write value) (changes rest fields)
    | none => changes rest fields

/-- The failure of a write that shows before a step, if there is one. -/
def before (step : Nat) (changes : Except Failure (ρ → ρ)) : Except Failure Unit :=
  match changes with
  | .error failure => if failure.step < step then .error failure else .ok ()
  | .ok _ => .ok ()

end Column

end Herald
