import Herald.Problem
import Herald.Value.Reading
import Herald.Number.Arithmetic

/-! # Failures

Every way in which an operation of the engine can fail, as a cause. Failures of the engine's own
rules carry a notice: a sentence, and details that are appended to it where the failure is
reported. Failures of arithmetic and of values say what their fault is; those of the database and of
forms are known by their name alone.
-/

namespace Herald

/-- A sentence about a failure, with named details. -/
structure Notice where
  message : String
  details : Fields

namespace Notice

/-- The sentence, followed by the details if there are any. -/
def text (notice : Notice) : String :=
  if notice.details.isEmpty then notice.message
  else s!"{notice.message} - {(Value.record notice.details).inSentence}"

/-- Add a detail unless it is null. -/
def withDetail (details : Fields) (name : String) (value : Value) : Fields :=
  if value.isNull then details else details.put name value

/-- A broken rule of an attribute schema or a filter. -/
def schemaViolation (message : String) (key operator : Value) (details : Fields) : Notice :=
  ⟨message, withDetail (withDetail details "key" key) "operator" operator⟩

/-- An operation on a campaign whose status does not allow it. -/
def invalidState (campaign status : Value) (message : Option String) : Notice :=
  let standard := s!"Campaign cannot be executed. Status: {status.inSentence}"
  ⟨match message with
    | some message => if message.isEmpty then standard else message
    | none => standard,
   [("campaign_id", campaign), ("status", status)]⟩

/-- A balance that does not cover the next message. -/
def insufficientBalance (tenant amount : Value) : Notice :=
  ⟨"Insufficient balance", [("tenant_id", tenant), ("required", .text amount.inSentence)]⟩

/-- A message that its provider did not take. -/
def transportFailure (message : String) (channel : Value) : Notice :=
  ⟨message, if channel.isTruthy then [("channel", channel)] else []⟩

end Notice

/-- A broken rule of an attribute schema or a filter: a sentence and what it is about. -/
structure Violation where
  message : String
  key : Option String
  operator : Option String
  problems : Option (List Problem)

namespace Violation

def plain (message : String) : Violation := ⟨message, none, none, none⟩

def ofKey (message key : String) : Violation := ⟨message, some key, none, none⟩

def ofCondition (message key operator : String) : Violation :=
  ⟨message, some key, some operator, none⟩

/-- The notice of a violation. One that lists problems has no other details. -/
def notice (violation : Violation) : Notice :=
  if violation.problems.isSome then ⟨violation.message, []⟩
  else
    .schemaViolation violation.message (.ofTextOption violation.key)
      (.ofTextOption violation.operator) []

end Violation

/-- Why an operation failed. -/
inductive Failure
  /-- An attribute schema, a filter or a target type is not usable. -/
  | violation (violation : Violation)
  /-- The campaign's status does not allow the operation. -/
  | invalidState (campaign : Int) (status : Option String) (message : Option String)
  /-- The tenant cannot pay for the next message. -/
  | insufficientBalance (tenant : String) (amount : Decimal)
  /-- The provider of a channel could not be reached, or did not take the message. -/
  | transportFailure (channel message : String)
  /-- The provider of a channel did not answer in time. -/
  | transportTimeout (channel message : String)
  /-- A form was refused. -/
  | invalidForm (problems : List Problem)
  /-- An amount of money below zero. -/
  | negativeAmount (amount : Decimal)
  /-- A number for which an operation is undefined. -/
  | undefinedNumber
  /-- A decimal result beyond the largest exponent. -/
  | decimalOverflow
  /-- A date or integer outside its range. -/
  | outOfRange (fault : RangeFault)
  /-- A value that cannot be looked for among names. -/
  | unusableName (fault : NameFault)
  /-- A value of a kind for which an operation is not defined. -/
  | wrongKind (fault : KindFault)
  /-- A value that is nested too deeply to be written. -/
  | tooDeep
  /-- A filter that is nested too deeply to be submitted. -/
  | overnested
  /-- An entry of details that is no pair. -/
  | notPair
  /-- A field that may not be given, or arguments that do not fit together. -/
  | unexpectedField
  /-- A row without a part that is needed. -/
  | missingPart
  /-- An answer of a kind that has no fields. -/
  | noFields (kind : String)
  /-- An hour that no day has. -/
  | noSuchHour
  /-- A text or double that is no number of the kind that is needed. -/
  | unreadableNumber
  /-- An integer with too many digits to be written. -/
  | overlongNumber
  /-- A time zone that is not known. -/
  | unknownZone
  /-- A name that cannot be the name of a time zone. -/
  | malformedZone
  /-- An area of time zones where one zone is needed. -/
  | zoneArea
  /-- A name that is too long for a time zone. -/
  | overlongZone
  /-- A channel without a provider. -/
  | noProvider
  /-- An unforeseen error with its own sentence. -/
  | crash (message : String)
  /-- A row that breaks a rule of its table. -/
  | refusedRow
  /-- A value that does not fit the type of its column. -/
  | unstorable
  /-- A value of a kind that the database does not take. -/
  | unsupportedValue
  /-- A name of no column in a write to a table. -/
  | unknownColumn
  /-- A part of a row that is no column of its table. -/
  | notColumn
  /-- A database that cannot be used. -/
  | noDatabase

namespace Failure

def ofRefusal : Value.Refusal → Failure
  | .outOfRange fault => .outOfRange fault
  | .undefinedNumber => .undefinedNumber
  | .unusableName fault => .unusableName fault
  | .tooDeep => .tooDeep
  | .overlongNumber => .overlongNumber

def ofSignal : Decimal.Signal → Failure
  | .invalid => .undefinedNumber
  | .overflow => .decimalOverflow

/-- The name under which a failure is recorded. -/
def name : Failure → String
  | .violation _ => "SchemaViolation"
  | .invalidState _ _ _ => "InvalidState"
  | .insufficientBalance _ _ => "InsufficientBalance"
  | .transportFailure _ _ => "TransportFailure"
  | .transportTimeout _ _ => "TransportTimeout"
  | .invalidForm _ => "ValidationError"
  | .negativeAmount _ => "ValueError"
  | .undefinedNumber => "InvalidOperation"
  | .decimalOverflow => "Overflow"
  | .outOfRange _ => "OverflowError"
  | .unusableName _ => "TypeError"
  | .wrongKind _ => "TypeError"
  | .tooDeep => "RecursionError"
  | .overnested => "ValueError"
  | .notPair => "ValueError"
  | .unexpectedField => "TypeError"
  | .missingPart => "AttributeError"
  | .noFields _ => "AttributeError"
  | .noSuchHour => "ValueError"
  | .unreadableNumber => "ValueError"
  | .overlongNumber => "ValueError"
  | .unknownZone => "ZoneInfoNotFoundError"
  | .malformedZone => "ValueError"
  | .zoneArea => "IsADirectoryError"
  | .overlongZone => "OSError"
  | .noProvider => "NotImplementedError"
  | .crash _ => "RuntimeError"
  | .refusedRow => "IntegrityError"
  | .unstorable => "StatementError"
  | .unsupportedValue => "ProgrammingError"
  | .unknownColumn => "CompileError"
  | .notColumn => "ArgumentError"
  | .noDatabase => "OperationalError"

/-- The notice of a failure of the engine's own rules. -/
def notice? : Failure → Option Notice
  | .violation broken => some broken.notice
  | .invalidState campaign status message =>
    some (.invalidState (.int campaign) (.ofTextOption status) message)
  | .insufficientBalance tenant amount =>
    some (.insufficientBalance (.text tenant) (.decimal amount))
  | .transportFailure channel message => some (.transportFailure message (.text channel))
  | .transportTimeout channel message => some (.transportFailure message (.text channel))
  | _ => none

/-- Whether a failure ends one message only, and not the pass that sends it. -/
def isTransport : Failure → Bool
  | .transportFailure _ _ => true
  | .transportTimeout _ _ => true
  | _ => false

/-- What a failure says that is a rule of the engine, or an unforeseen error. -/
def ownSentence? (failure : Failure) : Option String :=
  match failure.notice?, failure with
  | some notice, _ => some notice.text
  | none, .crash message => some message
  | none, _ => none

/-- What a failure of arithmetic or of a value says. -/
def faultSentence? : Failure → Option String
  | .negativeAmount amount => some s!"Amount must not be negative: {amount.text}"
  | .undefinedNumber => some "[<class 'decimal.InvalidOperation'>]"
  | .decimalOverflow => some "[<class 'decimal.Overflow'>]"
  | .outOfRange fault => some fault.sentence
  | .unusableName fault => some fault.sentence
  | .wrongKind fault => some fault.sentence
  | .noFields kind => some s!"'{kind}' object has no attribute 'get'"
  | .noSuchHour => some "hour must be in 0..23"
  | .overlongNumber =>
    some ("Exceeds the limit (4300 digits) for integer string conversion; "
      ++ "use sys.set_int_max_str_digits() to increase the limit")
  | _ => none

/-- The name of a failure, as it stands where no sentence may. -/
def bareName (failure : Failure) : String := s!"<{failure.name}>"

/-- What a failure says: its sentence, or its name. -/
def text (failure : Failure) : String :=
  (failure.ownSentence?.or failure.faultSentence?).getD failure.bareName

/-- What is kept of a failure that ended a pass: its name, and its sentence if that is the engine's
own. -/
def reason (failure : Failure) : String :=
  match failure.ownSentence? with
  | some sentence => s!"{failure.name}: {sentence}"
  | none => failure.name

end Failure

end Herald
