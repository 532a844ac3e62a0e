import Herald.Calendar.ZoneName
import Herald.Failure
import Herald.Form
import Herald.Sms

/-! # Settings

What the engine needs to know beside its data: prices, the sizes of text message segments, the
limits of a pass, and the zone of run windows. Settings are read from a form, whose fields all have
defaults, and nothing else is looked up while the engine runs.
-/

namespace Herald

/-- The settings of the engine. -/
structure Settings where
  /-- Nothing is sent, and messages are recorded as delivered. -/
  testMode : Bool
  smsPrice : Decimal
  emailPrice : Decimal
  sizes : SmsSizes
  smsLimit : Nat
  sendTimeout : Binary64
  /-- Minutes between two passes of an automated campaign that names no interval. -/
  checkMinutes : Nat
  zone : Zone

namespace Settings

/-- A price of some cents. -/
def cents (number : Nat) : Decimal := .finite false number (-2)

/-- Read the name of a zone. -/
def readZone (value : Value) : Checked Zone :=
  (Form.text value).andThen fun name =>
    match ZoneName.ofText name with
    | .zone zone => .valid zone
    | _ => Checked.complain (.rule s!"Unknown timezone: {name}")

/-- Why a form cannot even be checked: its zone is an area of zones, or has a name that is too
long to be looked up. -/
def zoneFailure? (fields : Fields) : Option Failure :=
  match fields.get? "timezone" with
  | some (.text name) =>
    match ZoneName.ofText name with
    | .area => some .zoneArea
    | .overlong => some .overlongZone
    | _ => none
  | _ => none

/-- A field that holds an integer above zero. -/
def readSize (fields : Fields) (name : String) (default : { number : Nat // 0 < number }) :
    Checked { number : Nat // 0 < number } :=
  Form.withDefault fields name default Form.positiveInteger

/-- Read settings from a form. -/
def ofForm (fields : Fields) : Checked Settings :=
  (fun testMode smsPrice emailPrice first further unicodeFirst unicodeFurther limit timeout minutes
      zone =>
    Settings.mk testMode smsPrice emailPrice
      ⟨⟨first.1, further.1, first.2, further.2⟩,
        ⟨unicodeFirst.1, unicodeFurther.1, unicodeFirst.2, unicodeFurther.2⟩⟩
      limit.1 timeout minutes.1 zone)
    <$> Form.withDefault fields "test_mode" false Form.boolean
    <*> Form.withDefault fields "sms_cost_per_segment" (cents 4) Form.decimal
    <*> Form.withDefault fields "email_cost_per_message" (cents 1) Form.decimal
    <*> readSize fields "sms_segment_size" ⟨160, by decide⟩
    <*> readSize fields "sms_segment_size_concat" ⟨153, by decide⟩
    <*> readSize fields "sms_unicode_segment_size" ⟨67, by decide⟩
    <*> readSize fields "sms_unicode_segment_size_concat" ⟨67, by decide⟩
    <*> readSize fields "sms_max_length" ⟨1000, by decide⟩
    <*> Form.withDefault fields "send_timeout_seconds" (.ofInt 10) Form.positiveFloat
    <*> readSize fields "default_check_interval_minutes" ⟨60, by decide⟩
    <*> Form.withDefault fields "timezone" .utc readZone

/-- Read settings from a form that may fail to be checked. -/
def read (fields : Fields) : Except Failure Settings :=
  match zoneFailure? fields, ofForm fields with
  | some failure, _ => .error failure
  | none, .valid settings => .ok settings
  | none, .refused problems => .error (.invalidForm problems)

/-- The settings as named values, in the order of the form. -/
def toFields (settings : Settings) : Fields :=
  [("test_mode", .bool settings.testMode),
    ("sms_cost_per_segment", .decimal settings.smsPrice),
    ("email_cost_per_message", .decimal settings.emailPrice),
    ("sms_segment_size", .int settings.sizes.plain.first),
    ("sms_segment_size_concat", .int settings.sizes.plain.further),
    ("sms_unicode_segment_size", .int settings.sizes.unicode.first),
    ("sms_unicode_segment_size_concat", .int settings.sizes.unicode.further),
    ("sms_max_length", .int settings.smsLimit),
    ("send_timeout_seconds", .float settings.sendTimeout),
    ("default_check_interval_minutes", .int settings.checkMinutes),
    ("timezone", .text settings.zone.name)]

end Settings

end Herald
