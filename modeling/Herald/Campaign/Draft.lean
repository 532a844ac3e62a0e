import Herald.Calendar.Stamp
import Herald.Filter
import Herald.Attribute.Basic
import Herald.RunWindow

/-! # Campaign drafts

A campaign is submitted as a form. Beside the form of each field, a draft has what each of its
channels needs, and both hours of a run window or neither.
-/

namespace Herald

/-- The channels of a campaign. A stored word that names none of them reaches nobody. -/
inductive Reach
  | sms
  | email
  | both
  | other (word : String)
  deriving DecidableEq

namespace Reach

def name : Reach → String
  | .sms => "sms"
  | .email => "email"
  | .both => "both"
  | .other word => word

def ofName? (name : String) : Option Reach :=
  [Reach.sms, .email, .both].find? fun reach => reach.name == name

def ofStored (word : String) : Reach := (ofName? word).getD (.other word)

def needsPhone : Reach → Bool
  | .sms => true
  | .both => true
  | _ => false

def needsEmail : Reach → Bool
  | .email => true
  | .both => true
  | _ => false

end Reach

/-- Whether a campaign runs once or again and again. -/
inductive Recurrence
  | oneTime
  | automated
  | other (word : String)
  deriving DecidableEq

namespace Recurrence

def name : Recurrence → String
  | .oneTime => "one_time"
  | .automated => "automated"
  | .other word => word

def ofName? (name : String) : Option Recurrence :=
  [Recurrence.oneTime, .automated].find? fun kind => kind.name == name

def ofStored (word : String) : Recurrence := (ofName? word).getD (.other word)

end Recurrence

/-- The texts of a campaign and who sends them. -/
structure Content where
  sender : Option String
  template : Option String
  emailSender : Option String
  emailDisplayName : Option String
  emailSubject : Option String
  emailBody : Option String
  deriving DecidableEq

/-- A submitted campaign. -/
structure Draft where
  name : String
  target : TargetKind
  reach : Reach
  recurrence : Recurrence
  content : Content
  filter : Filter
  scheduledAt : Option Stamp
  checkMinutes : Option Int
  cooldownDays : Int
  window : RunWindow
  endsAt : Option Stamp
  isTest : Bool
  createdBy : Option String

namespace Draft

/-! ## Fields -/

/-- A stamp that was read, or a complaint. The year zero is no year. -/
def checkStamp (unreadable : Complaint) : Stamp.Reading → Checked Stamp
  | .found stamp => .valid stamp
  | .yearZero => Checked.complain .unreadableMoment
  | .unreadable => Checked.complain unreadable

/-- Read a stamp; a number counts seconds or milliseconds. -/
def readStamp : Value → Checked Stamp
  | .text content => checkStamp .unreadableDay (Stamp.ofText content)
  | .moment instant => .valid ⟨instant, none⟩
  | .date day => .valid ⟨.midnight day, none⟩
  | .int count =>
    if (Binary64.ofInt count).isFinite then checkStamp .unreadableMoment (Stamp.ofCount count)
    else Checked.complain .notMoment
  | .float count => checkStamp .unreadableMoment (Stamp.ofDouble count)
  | .decimal count =>
    if count.isSignaling then Checked.complain .notMoment
    else checkStamp .unreadableMoment (Stamp.ofDouble (Number.nearestDouble count))
  | _ => Checked.complain .notMoment

/-- Read a kind of target. -/
def readTarget (value : Value) : Checked TargetKind :=
  (Form.formedText (fun name => (TargetKind.ofName? name).isSome) value).andThen fun name =>
    match TargetKind.ofName? name with
    | some kind => .valid kind
    | none => Checked.complain .textOfWrongForm

def readContent (fields : Fields) : Checked Content :=
  Content.mk
    <$> Form.nullable fields "sender" (Form.sizedText 0 (some 50))
    <*> Form.nullable fields "message_template" (Form.sizedText 1 none)
    <*> Form.nullable fields "email_sender" Form.text
    <*> Form.nullable fields "email_display_name" Form.text
    <*> Form.nullable fields "email_subject" (Form.sizedText 0 (some 500))
    <*> Form.nullable fields "email_body" Form.text

def readWindow (fields : Fields) : Checked RunWindow :=
  (fun start finish => RunWindow.mk (start.map .int) (finish.map .int))
    <$> Form.nullable fields "run_start_hour" (Form.integerWithin (some 0) (some 23))
    <*> Form.nullable fields "run_end_hour" (Form.integerWithin (some 0) (some 24))

def readCheckMinutes (value : Value) : Checked Int :=
  (Form.positiveInteger value).map fun minutes => (minutes.1 : Int)

/-! ## Rules -/

/-- Whether a text is given and not empty. -/
def isGiven (text : Option String) : Bool := text.any fun text => !text.isEmpty

/-- Each channel needs its texts and its sender. -/
def contentRule (draft : Draft) : Option String :=
  let content := draft.content
  if draft.reach.needsPhone && !(isGiven content.template && isGiven content.sender) then
    some "SMS campaigns require message_template and sender"
  else if draft.reach.needsEmail && !(isGiven content.emailSubject && isGiven content.emailBody &&
      isGiven content.emailSender) then
    some "Email campaigns require email_subject, email_body and email_sender"
  else none

/-- The hours of a run window come in pairs. -/
def windowRule (draft : Draft) : Option String :=
  if draft.window.start.isSome != draft.window.finish.isSome then
    some "run_start_hour and run_end_hour must be set together"
  else none

/-- Read a draft from a form. -/
def ofForm (fields : Fields) : Checked Draft :=
  (Draft.mk
    <$> Form.required fields "name" (Form.sizedText 1 (some 255))
    <*> Form.withDefault fields "target_type" .customer readTarget
    <*> Form.withDefault fields "channel" .sms (Form.choice Reach.ofName?)
    <*> Form.withDefault fields "campaign_type" .oneTime (Form.choice Recurrence.ofName?)
    <*> readContent fields
    <*> Form.withDefault fields "filter" .empty Filter.ofValue
    <*> Form.nullable fields "scheduled_at" readStamp
    <*> Form.nullable fields "check_interval_minutes" readCheckMinutes
    <*> Form.withDefault fields "cooldown_days" 0 (Form.integerWithin (some 0) none)
    <*> readWindow fields
    <*> Form.nullable fields "ends_at" readStamp
    <*> Form.withDefault fields "is_test" false Form.boolean
    <*> Form.nullable fields "created_by" Form.text
    |>.holding contentRule).holding windowRule

end Draft

end Herald
