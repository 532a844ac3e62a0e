import Herald.Scheduler

/-! # The tick command

One run of the scheduler, as a periodic job starts it: two options, a report that is printed, and an
exit code. Options may be shortened as long as they stay distinct. A failed pass is reported and
makes the exit code one; a failure of the scheduler itself ends the run.
-/

namespace Herald.Tick

/-! ## Arguments -/

/-- The options of the command. -/
inductive Choice
  | cleanupDays
  | createTables
  | help
  deriving DecidableEq

namespace Choice

def all : List Choice := [.cleanupDays, .createTables, .help]

def name : Choice → String
  | .cleanupDays => "--cleanup-days"
  | .createTables => "--init-db"
  | .help => "--help"

end Choice

/-- One argument. -/
inductive Argument
  /-- An option, perhaps with a value behind an equals sign. -/
  | chosen (choice : Choice) (value : Option String)
  | plain (text : String)
  | unknown
  /-- A beginning that several options share. -/
  | ambiguous
  deriving DecidableEq

/-- What the command does beside running the campaigns. -/
structure Plan where
  createTables : Bool
  cleanupDays : Option Int
  deriving DecidableEq

/-- What arguments ask for. -/
inductive Asked
  | run (plan : Plan)
  | help
  | misuse
  deriving DecidableEq

/-- An argument before and behind its first equals sign. -/
def splitValue (argument : String) : String × Option String :=
  let chars := argument.toList
  let name := String.ofList (chars.takeWhile (· != '='))
  match chars.dropWhile (· != '=') with
  | [] => (name, none)
  | _ :: value => (name, some (String.ofList value))

/-- The characters of an argument without a line feed at the end. -/
def lineChars (argument : String) : List Char :=
  let chars := argument.toList
  if chars.getLast? == some '\n' then chars.dropLast else chars

/-- Whether an argument is a number below zero, and so no option; it may end a line. -/
def isNegativeNumber (argument : String) : Bool :=
  let isDigit := fun c => (Text.digitValue? c).isSome
  let areDigits := fun chars : List Char => !chars.isEmpty && chars.all isDigit
  match lineChars argument with
  | '-' :: chars =>
    areDigits chars ||
      (match chars.dropWhile (· != '.') with
        | _ :: decimals => (chars.takeWhile (· != '.')).all isDigit && areDigits decimals
        | [] => false)
  | _ => false

/-- An argument that is no option. -/
def readPlain (argument : String) : Argument :=
  if isNegativeNumber argument || argument.toList.contains ' ' then .plain argument else .unknown

/-- Read an argument that begins with two dashes. -/
def readLong (argument : String) : Argument :=
  let (name, value) := splitValue argument
  match Choice.all.filter fun choice => name.toList.isPrefixOf choice.name.toList with
  | [] => readPlain argument
  | [choice] => .chosen choice value
  | _ => .ambiguous

/-- Read what follows the short form of help. It takes no value, but its letter may be written again
and again, also behind an equals sign. -/
def readHelp (more : List Char) : Argument :=
  let letters := match more with
    | '=' :: letters => letters
    | letters => letters
  if more.isEmpty || (!letters.isEmpty && letters.all (· == 'h')) then .chosen .help none
  else .chosen .help (some (String.ofList more))

/-- Read one argument. -/
def Argument.read (argument : String) : Argument :=
  match argument.toList with
  | ['-'] => .plain argument
  | '-' :: '-' :: _ => readLong argument
  | '-' :: 'h' :: more => readHelp more
  | '-' :: _ => readPlain argument
  | _ => .plain argument

/-- Read the arguments. Behind two dashes alone there are no options. -/
def readArguments : List String → List Argument
  | [] => []
  | "--" :: rest => .unknown :: rest.map .plain
  | argument :: rest => .read argument :: readArguments rest

/-- What arguments ask for, beyond what has been asked for already; `strays` tells whether there was
an argument that belongs nowhere. -/
def interpret (retentionDays : Int) (plan : Plan) (strays : Bool) : List Argument → Asked
  | [] => if strays then .misuse else .run plan
  | .chosen .cleanupDays none :: .plain text :: rest =>
    match Number.integerOfText? text with
    | some days => interpret retentionDays { plan with cleanupDays := some days } strays rest
    | none => .misuse
  | .chosen .cleanupDays (some text) :: rest =>
    match Number.integerOfText? text with
    | some days => interpret retentionDays { plan with cleanupDays := some days } strays rest
    | none => .misuse
  | .chosen .cleanupDays none :: rest =>
    interpret retentionDays { plan with cleanupDays := some retentionDays } strays rest
  | .chosen .createTables none :: rest =>
    interpret retentionDays { plan with createTables := true } strays rest
  | .chosen .help none :: _ => .help
  | .chosen _ (some _) :: _ => .misuse
  | .ambiguous :: _ => .misuse
  | .plain _ :: rest => interpret retentionDays plan true rest
  | .unknown :: rest => interpret retentionDays plan true rest

/-- What the arguments of the command ask for. -/
def ask (retentionDays : Int) (arguments : List String) : Asked :=
  let arguments := readArguments arguments
  if arguments.contains .ambiguous then .misuse
  else interpret retentionDays ⟨false, none⟩ false arguments

/-- The line that tells how a program of a name is used. -/
def usage (program : String) : String :=
  s!"usage: {program} [-h] [--cleanup-days [CLEANUP_DAYS]] [--init-db]"

/-- What is printed when help is asked for. -/
def helpLines (program : String) (retentionDays : Int) : List String :=
  [usage program, "", "Run due outreach campaigns", "", "options:",
    "  -h, --help            show this help message and exit",
    "  --cleanup-days [CLEANUP_DAYS]",
    "                        Also delete cooldown records older than N days",
    s!"                        (default {retentionDays})",
    "  --init-db             Create missing tables first"]

/-! ## The report -/

/-- What is printed, and the exit code. -/
structure Report where
  lines : List String
  code : UInt32

def ruler : String := String.ofList (List.replicate 70 '=')

def header : List String := [ruler, "⏰ OUTREACH CAMPAIGN TICK", ruler]

/-- The line about one campaign. -/
def attemptLine (attempt : Scheduler.Attempt) : String :=
  match attempt.result with
  | .ok result =>
    let counts := fun tally : ChannelTally => s!"{tally.sent}/{tally.failed}"
    let sms := counts result.tally.sms
    let email := counts result.tally.email
    s!"   ✅ Campaign {attempt.campaign}: {result.status.name} (sms {sms}, email {email})"
  | .error failure => s!"   ❌ Campaign {attempt.campaign}: {failure.text}"

/-- The lines about the campaigns. -/
def attemptLines (attempts : List Scheduler.Attempt) : List String :=
  if attempts.isEmpty then ["", "   No campaigns due"] else attempts.map attemptLine

/-- Whether a pass has ended in a result. -/
def succeeded (attempt : Scheduler.Attempt) : Bool :=
  match attempt.result with
  | .ok _ => true
  | .error _ => false

variable {σ α : Type} [Amount α]

/-- Create the tables if they are asked for, and tell so. -/
def prepare (plan : Plan) : Run σ α (List String) := do
  if plan.createTables then
    Store.create
    return ["   ✅ Tables ready"]
  else return []

/-- Delete old cooldowns if that is asked for, and tell so. -/
def cleanUp (plan : Plan) : Run σ α (List String) := do
  match plan.cleanupDays with
  | none => return []
  | some days =>
    let removed ← CooldownLedger.cleanup (.int days)
    return ["", s!"   🧹 Removed {removed} cooldown record(s) older than {days} days"]

/-- Run the command on a database that may be out of reach. -/
def run (engine : Engine σ α) (isReachable : Bool) (plan : Plan) : Run σ α Report := do
  if !isReachable then
    let line := "   ❌ Database connection failed! Check .env configuration"
    return ⟨header ++ [line], 1⟩
  let prepared ← prepare plan
  let attempts ← Scheduler.tick engine
  let cleaned ← cleanUp plan
  return ⟨header ++ prepared ++ attemptLines attempts ++ cleaned ++ ["", ruler],
    if attempts.all succeeded then 0 else 1⟩

end Herald.Tick
