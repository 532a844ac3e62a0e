import Herald.Environment
import Herald.Tick
import Std.Time.DateTime.Timestamp

/-! # The tick program

The tick command as a program. The arguments, the variables of the environment and the clock come
from outside, and all the rest is decided by the command. The tables live as long as the run, and no
provider is reached from here.
-/

namespace Herald.Program

/-- The name of the program. -/
def name : String := "herald"

/-- The variables that are set. -/
def setVariables : IO Variables :=
  Environment.variableNames.filterMapM fun name => do
    return (← IO.getEnv name).map fun value => (name, value)

/-- The time now. -/
def now : IO Moment := do
  let milliseconds := (← Std.Time.Timestamp.now).toMillisecondsSinceUnixEpoch.val
  match Moment.ofMicros? (Stamp.epochMicros + milliseconds * 1000) with
  | some moment => return moment
  | none => throw (.userError "The clock is out of range")

/-- The value of a result; a failure ends the program. -/
def orEnd {β : Type} (result : Except Failure β) : IO β :=
  match result with
  | .ok value => return value
  | .error failure => throw (.userError failure.reason)

/-- The engine of an installation. -/
def engine (settings : Settings) (environment : Environment) : Engine Unit Binary64 where
  settings := settings
  sms := .smsGateway (.text environment.gatewayUrl) (.text environment.gatewayLogin)
    (.text environment.gatewayPassword)
  email := .emailService (.text environment.emailUrl) (.ofTextOption environment.emailKey)
  batchSize := 500
  exchange _ := return .unreachable "no connection"
  beforeFinish := return ()

/-- Run the command and print its report. -/
def tick (environment : Environment) (plan : Tick.Plan) : IO UInt32 := do
  let settings ← orEnd environment.settings
  let world : World Unit Binary64 := ⟨.empty, ← now, [], ()⟩
  let report ← orEnd ((Tick.run (engine settings environment) true plan).run.run world).1
  report.lines.forM fun line => IO.println line
  return report.code

end Herald.Program

def main (arguments : List String) : IO UInt32 := do
  let base := (← IO.currentDir).toString
  let entries ← Herald.Program.setVariables
  let environment ← Herald.Program.orEnd (Herald.Environment.ofVariables base entries)
  match Herald.Tick.ask environment.retentionDays arguments with
  | .run plan => Herald.Program.tick environment plan
  | .help =>
    (Herald.Tick.helpLines Herald.Program.name environment.retentionDays).forM fun line =>
      IO.println line
    return 0
  | .misuse =>
    IO.eprintln (Herald.Tick.usage Herald.Program.name)
    return 2
