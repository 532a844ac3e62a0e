import Herald.Channel
import Herald.Failure
import Herald.Value.Depth

/-! # Providers

The text message gateway answers with a line that starts with `OK` and may name a transaction; the
e-mail service answers with a record that may hold an id, a cost and error texts. A provider that
cannot be reached or does not answer in time is a transport failure, which ends one message and not
the pass. Without a provider's credentials nothing is called. What became of a message is reported
under the beginning of its recipient, which therefore has to be a text or a small collection.
-/

namespace Herald

/-- The provider of a channel. -/
inductive Provider
  | smsGateway (url user password : Value)
  | emailService (url key : Value)
  | unserved

namespace Provider

/-- The name of the channel that a provider serves. -/
def channelName : Provider → String
  | .smsGateway _ _ _ => Channel.sms.name
  | .emailService _ _ => Channel.email.name
  | .unserved => "base"

/-- A text that counts as one: not an empty one. -/
def nonEmpty (text : Option String) : Option String := text.filter fun text => !text.isEmpty

/-- The sender line of an e-mail. -/
def senderLine (message : Outgoing) : Value :=
  if message.displayName.isTruthy then
    .text s!"{message.displayName.inSentence} <{message.sender.inSentence}>"
  else message.sender

/-- The subject of an e-mail; one that counts as nothing is empty. -/
def subjectLine (message : Outgoing) : Value :=
  if message.subject.isTruthy then message.subject else .text ""

/-- The request for a message. -/
def request (provider : Provider) (message : Outgoing) : Except Failure Request :=
  match provider with
  | .smsGateway url user password =>
    if !(url.isTruthy && user.isTruthy) then
      .error (.transportFailure provider.channelName "SMS gateway credentials not configured")
    else
      .ok (.sms url user password message.recipient message.content message.sender message.unicode)
  | .emailService url key =>
    if !url.isTruthy then
      .error (.transportFailure provider.channelName "Email API not configured")
    else
      .ok (.email url key (senderLine message) (subjectLine message) message.recipient
        message.content)
  | .unserved => .error .noProvider

/-- The most characters of a provider's text that are kept as an error message. -/
def errorLength : Nat := 500

def cutText (length : Nat) (text : String) : String := String.ofList (text.toList.take length)

/-- Read the answer of the text message gateway. -/
def smsOutcome (answer : Answer) : Outcome :=
  let body := Text.trimmed (answer.text.getD "")
  if answer.isOk && ['O', 'K'].isPrefixOf body.toList then
    let id := String.ofList ((body.toList.dropWhile (· != ':')).drop 1)
    ⟨true, nonEmpty (some id), none, none, none⟩
  else
    .failed (if body.isEmpty then s!"HTTP {answer.status}" else cutText errorLength body)
      s!"{answer.status}"

/-- A part of an answer that is written out in a report. -/
def written (part : Value) : Except Failure Value :=
  if part.isTooDeep then .error .tooDeep else .ok part

/-- The cost that an e-mail service reports; one that is no number counts as none. -/
def reportedCost (payload : Fields) : Except Failure Value := do
  match ← written (payload.getOrNull "cost") with
  | .null => return .null
  | cost =>
    match Decimal.ofText? cost.inSentence with
    | some number => return .decimal number
    | none => return .null

/-- The error that an e-mail service reports: a message, an error, or the text of its answer. -/
def reportedError (payload : Fields) (text : Option String) : Except Failure Value :=
  let message := payload.getOrNull "message"
  let error := payload.getOrNull "error"
  if message.isTruthy then .ok message
  else if error.isTruthy then .ok error
  else match text with
    | some text => .ok (.text (cutText errorLength text))
    | none => .error (.wrongKind .missingText)

/-- Read an outcome that has been put together from an answer. -/
def checkedOutcome (fields : Fields) : Except Failure Outcome :=
  match Outcome.ofForm fields with
  | .valid outcome => .ok outcome
  | .refused problems => .error (.invalidForm problems)

/-- Read the answer of the e-mail service. An answer without a payload has an empty one. -/
def emailOutcome (answer : Answer) : Except Failure Outcome :=
  match answer.payload.getD (.record []) with
  | .record payload =>
    if answer.isOk then do
      let cost ← reportedCost payload
      let id ← written (Fields.getOrNull payload "id")
      checkedOutcome [("success", .bool true), ("provider_id", id), ("cost", cost)]
    else do
      let error ← written (← reportedError payload answer.text)
      checkedOutcome [("success", .bool false), ("error_message", error),
        ("error_code", .text s!"{answer.status}")]
  | payload => .error (.noFields payload.kindName)

/-- Read what comes back from a provider. -/
def outcome (provider : Provider) : Reply → Except Failure Outcome
  | .answered answer =>
    match provider with
    | .emailService _ _ => emailOutcome answer
    | _ => .ok (smsOutcome answer)
  | .timedOut =>
    .error (.transportTimeout provider.channelName s!"{provider.channelName} provider timed out")
  | .unreachable reason =>
    .error (.transportFailure provider.channelName
      s!"{provider.channelName} transport error: {reason}")
  | .crashed message => .error (.crash message)

/-- The most entries of a collection that is reported whole. -/
def reportedLength : Nat := 5

/-- Whether a recipient can be reported: by the beginning of a text, or as a small collection. -/
def isReportable : Value → Bool
  | .text _ => true
  | .list items => items.length ≤ reportedLength
  | .record fields => fields.length ≤ reportedLength
  | _ => false

/-- Whether a failure shows before anything is reported. -/
def isUnreported : Failure → Bool
  | .crash _ => true
  | .noFields _ => true
  | .tooDeep => true
  | _ => false

/-- What became of a message once it has been reported under its recipient. -/
def reported (recipient : Value) (result : Except Failure Outcome) : Except Failure Outcome :=
  let refusal := Failure.wrongKind (.noBeginning recipient.kindName)
  match result with
  | .ok outcome => if isReportable recipient then .ok outcome else .error refusal
  | .error failure =>
    .error (if isReportable recipient || isUnreported failure then failure else refusal)

/-- Hand a message to a provider that answers in a given way: the request that was made, if any, and
what became of the message. In test mode no provider is asked. -/
def deliver (provider : Provider) (testMode : Bool) (message : Outgoing)
    (reply : Request → Reply) : Option Request × Except Failure Outcome :=
  if testMode then (none, reported message.recipient (.ok .simulated))
  else match provider.request message with
    | .ok request => (some request, reported message.recipient (provider.outcome (reply request)))
    | .error failure => (none, .error failure)

end Provider

end Herald
