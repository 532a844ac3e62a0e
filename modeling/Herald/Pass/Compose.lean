import Herald.World
import Herald.Template

/-! # Composing messages

What a campaign sends to a target on a channel, and what that costs: the filled-in template, made
fit for the channel. Composing depends on the settings, the campaign's texts and the target's
attributes alone, so a preview composes exactly what a pass sends.
-/

namespace Herald

/-- A message before it is sent. -/
structure Composed where
  content : String
  subject : Option String
  segments : Option Nat
  cost : Decimal
  deriving DecidableEq

namespace Composed

/-- A text message. -/
def ofSms (settings : Settings) (content : Content) (attributes : Fields) :
    Except Failure Composed :=
  let rendered := Template.render (content.template.getD "") attributes
  let text := Sms.sanitize settings.smsLimit rendered
  match Sms.cost settings.sizes settings.smsPrice text with
  | .ok cost => .ok ⟨text, none, some (Sms.segments settings.sizes text), cost⟩
  | .error signal => .error (.ofSignal signal)

/-- The name that an e-mail is headed with: the display name, or the sender. -/
def heading (content : Content) : String :=
  (Provider.nonEmpty content.emailDisplayName).getD (content.emailSender.getD "")

/-- An e-mail. -/
def ofEmail (settings : Settings) (content : Content) (attributes : Fields) : Composed :=
  let body := Template.render (content.emailBody.getD "") attributes
  let subject := Template.render (content.emailSubject.getD "") attributes
  ⟨Email.document body (heading content), some subject, none, settings.emailPrice⟩

/-- The message of a channel. -/
def of (settings : Settings) (content : Content) (attributes : Fields) :
    Channel → Except Failure Composed
  | .sms => ofSms settings content attributes
  | .email => .ok (ofEmail settings content attributes)

end Composed

/-- The channels on which a campaign can reach a target. -/
def channelsFor (reach : Reach) (target : TargetRecord) : List Channel :=
  (if reach.needsPhone && target.hasPhone then [.sms] else []) ++
    (if reach.needsEmail && target.hasEmail then [.email] else [])

/-- The contact of a target on a channel. -/
def TargetRecord.contact (target : TargetRecord) : Channel → Option String
  | .sms => target.phone
  | .email => target.email

/-- Who sends a campaign's messages on a channel. -/
def Content.senderOn (content : Content) : Channel → Option String
  | .sms => content.sender
  | .email => content.emailSender

/-- The message as it is handed to the channel. -/
def Composed.outgoing (message : Composed) (content : Content) (recipient : String) :
    Channel → Outgoing
  | .sms =>
    let unicode := Sms.needsUnicode message.content.toList
    ⟨.text recipient, .text message.content, .ofTextOption content.sender, unicode, .null, .null⟩
  | .email =>
    ⟨.text recipient, .text message.content, .ofTextOption content.emailSender, false,
      .ofTextOption message.subject, .ofTextOption content.emailDisplayName⟩

end Herald
