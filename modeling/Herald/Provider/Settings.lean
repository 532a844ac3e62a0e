import Herald.Provider

/-! # Providers from settings

A provider can be set up from loosely typed settings, and a message from loosely typed options. Each
kind of provider has settings of its own beside those that all of them share, and a setting that a
provider does not have is refused.
-/

namespace Herald

/-- The parts of a message that no option may stand for. -/
def Outgoing.fixedParts : List String := ["content", "recipient", "self", "sender_id"]

/-- A message with options. Options that no channel knows have no effect. -/
def Outgoing.ofOptions (recipient content sender : Value) (options : Fields) :
    Except Failure Outgoing :=
  if options.names.any fixedParts.contains then .error .unexpectedField
  else
    .ok ⟨recipient, content, sender, (options.getOrNull "unicode").isTruthy,
      options.getOrNull "subject", options.getOrNull "display_name"⟩

namespace Provider

/-- The settings of every provider: whether it is asked at all, and how long an answer may take. -/
def commonSettings : List String := ["test_mode", "timeout"]

/-- The settings that the provider of a channel has of its own. -/
def ownSettings (channel : String) : List String :=
  if channel == Channel.sms.name then ["url", "login", "password"]
  else if channel == Channel.email.name then ["url", "api_key"]
  else []

/-- The provider of a channel with some settings. -/
def ofSettings (channel : String) (settings : Fields) : Except Failure Provider :=
  let setting := fun name => (settings.get? name).getD (.text "")
  if !settings.names.all (commonSettings ++ ownSettings channel).contains then
    .error .unexpectedField
  else if channel == Channel.sms.name then
    .ok (.smsGateway (setting "url") (setting "login") (setting "password"))
  else if channel == Channel.email.name then
    .ok (.emailService (setting "url") (settings.getOrNull "api_key"))
  else .ok .unserved

/-- Seconds that a provider has for an answer unless its settings say otherwise. -/
def standardTimeout : Value := .float (.ofInt 10)

/-- How long an answer may take. -/
def timeout (settings : Fields) : Value := (settings.get? "timeout").getD standardTimeout

end Provider

end Herald
