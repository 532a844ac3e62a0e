import Herald.Form

/-! # Channels

A message goes out over one of two channels. The provider of a channel is called with a request;
what comes back is an answer, or nothing in time, or an error on the way. An answer is read into an
outcome, the one thing that a pass looks at.
-/

namespace Herald

/-- A way to reach a target. -/
inductive Channel
  | sms
  | email
  deriving DecidableEq

def Channel.name : Channel → String
  | .sms => "sms"
  | .email => "email"

/-- A message as it is handed to a channel. Its parts are loose: a channel hands them on as they
are. -/
structure Outgoing where
  recipient : Value
  content : Value
  sender : Value
  unicode : Bool
  subject : Value
  displayName : Value

/-- What a provider is asked. -/
inductive Request
  | sms (url user password recipient content sender : Value) (unicode : Bool)
  | email (url key sender subject recipient html : Value)

def Request.channel : Request → Channel
  | .sms _ _ _ _ _ _ _ => .sms
  | .email _ _ _ _ _ _ => .email

def Request.recipient : Request → Value
  | .sms _ _ _ recipient _ _ _ => recipient
  | .email _ _ _ _ recipient _ => recipient

/-- What a provider answers: a status, and perhaps a text and a payload. -/
structure Answer where
  status : Int
  text : Option String
  payload : Option Value

/-- Whether the status of an answer is no error. -/
def Answer.isOk (answer : Answer) : Bool := answer.status < 400

/-- What comes back from a provider. -/
inductive Reply
  | answered (answer : Answer)
  | timedOut
  | unreachable (reason : String)
  | crashed (message : String)

/-- What became of a message. -/
structure Outcome where
  success : Bool
  providerId : Option String
  cost : Option Decimal
  errorMessage : Option String
  errorCode : Option String
  deriving DecidableEq

namespace Outcome

/-- Read an outcome from a form. -/
def ofForm (fields : Fields) : Checked Outcome :=
  Outcome.mk
    <$> Form.required fields "success" Form.boolean
    <*> Form.nullable fields "provider_id" Form.text
    <*> Form.nullable fields "cost" Form.decimal
    <*> Form.nullable fields "error_message" Form.text
    <*> Form.nullable fields "error_code" Form.text

/-- The outcome in test mode: success without a provider, under a made-up id. -/
def simulated : Outcome := ⟨true, some "test-#", some .zero, none, none⟩

/-- The outcome of a message that its provider did not take. -/
def failed (message : String) (code : String) : Outcome :=
  ⟨false, none, none, some message, some code⟩

end Outcome

end Herald
