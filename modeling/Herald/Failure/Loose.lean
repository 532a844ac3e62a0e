import Herald.Failure
import Herald.Value.Depth

/-! # Notices from loose values

The notices of the engine can be made by hand, from values of any kind: the message need not be a
text, nor the details a record. What is wrong with such a notice shows when it is made or when its
text is asked for.
-/

namespace Herald

/-- The kinds of notices. -/
inductive NoticeKind
  | general
  | violation
  | state
  | balance
  | transport
  deriving DecidableEq

/-- A notice of any values. -/
structure LooseNotice where
  message : Value
  details : Value

namespace LooseNotice

/-- The message, followed by the details if there are any. A message alone must be a text. -/
def text (notice : LooseNotice) : Except Failure String :=
  if notice.message.isTooDeep || notice.details.isTooDeep then .error .tooDeep
  else if notice.details.isTruthy then
    .ok s!"{notice.message.inSentence} - {notice.details.inSentence}"
  else match notice.message with
    | .text message => .ok message
    | _ => .error .unexpectedField

/-- A value unless it counts as nothing, and then an empty record. -/
def orEmpty (value : Value) : Value := if value.isTruthy then value else .record []

/-- The two parts of a detail that is given as an entry of a list. -/
def entry : Value → Except Failure (Value × Value)
  | .list [name, value] => .ok (name, value)
  | .record [(name, _), (other, _)] => .ok (.text name, .text other)
  | .text content =>
    match content.toList with
    | [name, value] => .ok (.text name.toString, .text value.toString)
    | _ => .error .notPair
  | .list _ => .error .notPair
  | .record _ => .error .notPair
  | _ => .error .unexpectedField

/-- Add a detail of a list to those before it. -/
def addEntry (details : Fields) (item : Value) : Except Failure Fields := do
  let (name, value) ← entry item
  match name.nameFault? with
  | some fault => throw (.unusableName fault)
  | none => return details.put name.inSentence value

/-- Details as a record: of a list, each item is an entry. -/
def detailsOf (details : Value) : Except Failure Fields :=
  match orEmpty details with
  | .record fields => .ok fields
  | .list items => items.foldlM addEntry []
  | .text _ => .error .notPair
  | _ => .error .unexpectedField

/-- A notice of a kind from its arguments, the last ones of which may be left out. -/
def ofArguments (kind : NoticeKind) (arguments : List Value) : Except Failure LooseNotice :=
  match kind, arguments with
  | .general, [message] => .ok ⟨message, .record []⟩
  | .general, [message, details] => .ok ⟨message, orEmpty details⟩
  | .general, [message, details, _] => .ok ⟨message, orEmpty details⟩
  | .violation, message :: more =>
    if 3 < more.length then .error .unexpectedField
    else do
      let given := fun index => (more[index]?).getD .null
      let details ← detailsOf (given 2)
      let notice := Notice.schemaViolation "" (given 0) (given 1) details
      return ⟨message, .record notice.details⟩
  | .state, campaign :: status :: more =>
    if 1 < more.length then .error .unexpectedField
    else
      let notice := Notice.invalidState campaign status none
      let message := (more.head?.filter Value.isTruthy).getD (.text notice.message)
      .ok ⟨message, .record notice.details⟩
  | .balance, [tenant, amount] =>
    let notice := Notice.insufficientBalance tenant amount
    .ok ⟨.text notice.message, .record notice.details⟩
  | .transport, message :: more =>
    if 3 < more.length then .error .unexpectedField
    else
      let notice := Notice.transportFailure "" ((more.head?).getD .null)
      .ok ⟨message, .record notice.details⟩
  | _, _ => .error .unexpectedField

end LooseNotice

end Herald
