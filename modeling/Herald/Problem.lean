/-! # Problems of a submitted form

A form is checked as a whole: every field that cannot be read adds a problem, and the form is
refused with all of them in the order of its fields. `Checked` collects them, and rules that look
at several fields come after the fields, one at a time.
-/

namespace Herald

/-- Why one value of a form is refused. -/
inductive Complaint
  | missing
  | notText
  | textTooShort
  | textTooLong
  | textOfWrongForm
  | unknownChoice
  | notInteger
  | unreadableInteger
  | integerTooLong
  | fractionalInteger
  | notBoolean
  | unreadableBoolean
  | notList
  | notRecord
  | notMoment
  | unreadableMoment
  | unreadableDay
  | notDecimal
  | unreadableDecimal
  | notFloat
  | unreadableFloat
  | notFinite
  | notAbove
  | notAtLeast
  | notAtMost
  | rule (message : String)
  deriving DecidableEq

namespace Complaint

/-- The code under which a complaint is reported. -/
def code : Complaint → String
  | .missing => "missing"
  | .notText => "string_type"
  | .textTooShort => "string_too_short"
  | .textTooLong => "string_too_long"
  | .textOfWrongForm => "string_pattern_mismatch"
  | .unknownChoice => "enum"
  | .notInteger => "int_type"
  | .unreadableInteger => "int_parsing"
  | .integerTooLong => "int_parsing_size"
  | .fractionalInteger => "int_from_float"
  | .notBoolean => "bool_type"
  | .unreadableBoolean => "bool_parsing"
  | .notList => "list_type"
  | .notRecord => "model_type"
  | .notMoment => "datetime_type"
  | .unreadableMoment => "datetime_parsing"
  | .unreadableDay => "datetime_from_date_parsing"
  | .notDecimal => "decimal_type"
  | .unreadableDecimal => "decimal_parsing"
  | .notFloat => "float_type"
  | .unreadableFloat => "float_parsing"
  | .notFinite => "finite_number"
  | .notAbove => "greater_than"
  | .notAtLeast => "greater_than_equal"
  | .notAtMost => "less_than_equal"
  | .rule _ => "value_error"

/-- The sentence of a broken rule; the other complaints speak through their code. -/
def message? : Complaint → Option String
  | .rule message => some s!"Value error, {message}"
  | _ => none

end Complaint

/-- A complaint about the value at a path of field names and list positions. -/
structure Problem where
  path : List String
  complaint : Complaint
  deriving DecidableEq

/-- A value, or the problems for which there is none. -/
inductive Checked (α : Type) where
  | valid (value : α)
  | refused (problems : List Problem)

namespace Checked

variable {α β : Type}

def map (f : α → β) : Checked α → Checked β
  | .valid value => .valid (f value)
  | .refused problems => .refused problems

/-- Apply a checked function to a checked argument. Problems of both are kept, the function's
first. -/
def apply : Checked (α → β) → (Unit → Checked α) → Checked β
  | .valid f, argument => (argument ()).map f
  | .refused problems, argument =>
    match argument () with
    | .valid _ => .refused problems
    | .refused more => .refused (problems ++ more)

instance : Applicative Checked where
  pure := .valid
  map := map
  seq := apply

/-- Go on with a value; a refusal stands. -/
def andThen : Checked α → (α → Checked β) → Checked β
  | .valid value, next => next value
  | .refused problems, _ => .refused problems

/-- A refusal for one complaint about the value itself. -/
def complain (complaint : Complaint) : Checked α := .refused [⟨[], complaint⟩]

/-- Place the problems of a part under its name. -/
def under (name : String) : Checked α → Checked α
  | .valid value => .valid value
  | .refused problems =>
    .refused (problems.map fun problem => { problem with path := name :: problem.path })

/-- Hold a form to a rule about several of its fields. -/
def holding (rule : α → Option String) (checked : Checked α) : Checked α :=
  checked.andThen fun value =>
    match rule value with
    | none => .valid value
    | some message => complain (.rule message)

/-- Check the items of a list, each under its position. -/
def items (check : β → Checked α) : Nat → List β → Checked (List α)
  | _, [] => .valid []
  | position, item :: rest =>
    List.cons <$> (check item).under (toString position) <*> items check (position + 1) rest

def toExcept : Checked α → Except (List Problem) α
  | .valid value => .ok value
  | .refused problems => .error problems

end Checked

end Herald
