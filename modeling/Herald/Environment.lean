import Herald.Settings
import Herald.Failure

/-! # Settings from environment variables

An installation is configured by variables with text values. A number that cannot be read is a
failure at once; the engine's own settings are checked like a form when they are asked for.
-/

namespace Herald

/-- Named text values. -/
abbrev Variables := List (String × String)

namespace Variables

def get? (entries : Variables) (name : String) : Option String :=
  (entries.find? fun entry => entry.1 == name).map Prod.snd

def getOr (entries : Variables) (name default : String) : String :=
  (entries.get? name).getD default

/-- A variable that holds an integer. -/
def integer (entries : Variables) (name : String) (default : Int) : Except Failure Int :=
  match entries.get? name with
  | none => .ok default
  | some text =>
    match Number.integerOfText? text with
    | some number => .ok number
    | none => .error .unreadableNumber

/-- A variable that holds a double. -/
def double (entries : Variables) (name : String) (default : Int) : Except Failure Binary64 :=
  match entries.get? name with
  | none => .ok (.ofInt default)
  | some text =>
    match Number.doubleOfText? text with
    | some number => .ok number
    | none => .error .unreadableNumber

/-- A variable that switches something on: any text but the words of a negative answer. -/
def flag (entries : Variables) (name : String) : Bool :=
  !(["0", "false", "no", ""].contains (Text.lowercase (entries.getOr name "false")))

end Variables

/-- Whether a byte stands for itself in a quoted part of an address. -/
def isUnreserved (byte : UInt8) : Bool :=
  let c := Char.ofNat byte.toNat
  c.isAlphanum || ['_', '.', '-', '~'].contains c

/-- A byte in a quoted part of an address: a blank is a plus sign, and other reserved bytes are
written in hexadecimal. -/
def quotedByte (byte : UInt8) : List Char :=
  if isUnreserved byte then [Char.ofNat byte.toNat]
  else if byte = 32 then ['+']
  else
    let hex := fun digit : Nat =>
      if digit < 10 then Text.digitChar digit else Char.ofNat ('A'.toNat + digit - 10)
    ['%', hex (byte.toNat / 16), hex (byte.toNat % 16)]

/-- A text as a part of an address. -/
def quotedPart (text : String) : String :=
  String.ofList (text.toUTF8.toList.flatMap quotedByte)

/-- Where the database is: at the given address, on the given host, or in a file of the base
directory. -/
def databaseUrl (base : String) (entries : Variables) : String :=
  let url := entries.getOr "DATABASE_URL" ""
  let host := entries.getOr "DB_HOST" ""
  if !url.isEmpty then url
  else if host.isEmpty then s!"sqlite:///{base}/outreach.db"
  else
    let user := entries.getOr "DB_USER" "postgres"
    let password := quotedPart (entries.getOr "DB_PASSWORD" "")
    let port := entries.getOr "DB_PORT" "5432"
    let name := entries.getOr "DB_NAME" "outreach_db"
    s!"postgresql://{user}:{password}@{host}:{port}/{name}"

/-- An installation's configuration. -/
structure Environment where
  databaseUrl : String
  /-- Milliseconds after which a statement of a server database is given up. -/
  statementTimeout : Int
  logLevel : String
  /-- Days for which cooldowns are kept. -/
  retentionDays : Int
  gatewayUrl : String
  gatewayLogin : String
  gatewayPassword : String
  emailUrl : String
  emailKey : Option String
  /-- The engine's settings as a form, apart from the prices. -/
  form : Fields
  smsPrice : String
  emailPrice : String

namespace Environment

/-- The variables that configure an installation. -/
def variableNames : List String :=
  ["DATABASE_URL", "DB_HOST", "DB_PORT", "DB_NAME", "DB_USER", "DB_PASSWORD",
    "DB_STATEMENT_TIMEOUT_MS", "LOG_LEVEL", "COOLDOWN_RETENTION_DAYS", "SMS_GATEWAY_URL",
    "SMS_GATEWAY_LOGIN", "SMS_GATEWAY_PASSWORD", "EMAIL_API_URL", "EMAIL_API_KEY",
    "CAMPAIGN_TEST_MODE", "CAMPAIGN_TIMEZONE", "SMS_SEGMENT_SIZE",
    "SMS_SEGMENT_SIZE_CONCAT", "SMS_UNICODE_SEGMENT_SIZE", "SMS_UNICODE_SEGMENT_SIZE_CONCAT",
    "SMS_MAX_LENGTH", "SMS_COST_PER_SEGMENT", "EMAIL_COST_PER_MESSAGE", "SEND_TIMEOUT_SECONDS",
    "DEFAULT_CHECK_INTERVAL_MINUTES"]

/-- Read the configuration of an installation in a base directory. -/
def ofVariables (base : String) (entries : Variables) : Except Failure Environment := do
  let statementTimeout ← entries.integer "DB_STATEMENT_TIMEOUT_MS" 15000
  let size ← entries.integer "SMS_SEGMENT_SIZE" 160
  let further ← entries.integer "SMS_SEGMENT_SIZE_CONCAT" 153
  let unicodeSize ← entries.integer "SMS_UNICODE_SEGMENT_SIZE" 67
  let unicodeFurther ← entries.integer "SMS_UNICODE_SEGMENT_SIZE_CONCAT" 67
  let limit ← entries.integer "SMS_MAX_LENGTH" 1000
  let timeout ← entries.double "SEND_TIMEOUT_SECONDS" 10
  let minutes ← entries.integer "DEFAULT_CHECK_INTERVAL_MINUTES" 60
  let retentionDays ← entries.integer "COOLDOWN_RETENTION_DAYS" 90
  return {
    databaseUrl := Herald.databaseUrl base entries
    statementTimeout, retentionDays
    logLevel := entries.getOr "LOG_LEVEL" "INFO"
    gatewayUrl := entries.getOr "SMS_GATEWAY_URL" ""
    gatewayLogin := entries.getOr "SMS_GATEWAY_LOGIN" ""
    gatewayPassword := entries.getOr "SMS_GATEWAY_PASSWORD" ""
    emailUrl := entries.getOr "EMAIL_API_URL" ""
    emailKey := entries.get? "EMAIL_API_KEY"
    form := [("test_mode", .bool (entries.flag "CAMPAIGN_TEST_MODE")),
      ("sms_segment_size", .int size), ("sms_segment_size_concat", .int further),
      ("sms_unicode_segment_size", .int unicodeSize),
      ("sms_unicode_segment_size_concat", .int unicodeFurther), ("sms_max_length", .int limit),
      ("send_timeout_seconds", .float timeout),
      ("default_check_interval_minutes", .int minutes),
      ("timezone", .text (entries.getOr "CAMPAIGN_TIMEZONE" "UTC"))]
    smsPrice := entries.getOr "SMS_COST_PER_SEGMENT" "0.04"
    emailPrice := entries.getOr "EMAIL_COST_PER_MESSAGE" "0.01" }

/-- The decimal that a price text writes. -/
def price (text : String) : Except Failure Value :=
  match Decimal.ofText? text with
  | some number => .ok (.decimal number)
  | none => .error .undefinedNumber

/-- The settings of the engine. -/
def settings (environment : Environment) : Except Failure Settings := do
  let sms ← price environment.smsPrice
  let email ← price environment.emailPrice
  let prices := [("sms_cost_per_segment", sms), ("email_cost_per_message", email)]
  Settings.read (environment.form ++ prices)

end Environment

end Herald
