import Herald.Calendar.Moment

/-! # Time zones

A zone gives the distance of its wall clock from universal time. Two of the known zones have summer
time: between two Sundays of the year their clock is an hour ahead. A wall time that the spring
change skips is read with the distance before it, and one that the autumn change repeats as its
first occurrence; in both cases that is the reading of whoever looks at the clock before changing
it.
-/

namespace Herald

/-- The zones that campaigns may run in. -/
inductive Zone
  | utc
  | sofia
  | newYork
  | kolkata
  | kathmandu
  deriving DecidableEq

/-- A Sunday of a month at an hour of universal time. -/
structure SundayRule where
  month : Nat
  /-- The day of the month on or after which the Sunday falls. -/
  earliest : Nat
  hour : Nat
  deriving DecidableEq

/-- Microseconds of an hour. -/
def hourMicros : Int := 3600000000

/-- The instant of a rule in a year, as microseconds since the start of year 1. -/
def SundayRule.micros (rule : SundayRule) (year : Nat) : Int :=
  let day := Date.daysBeforeYear year + Date.daysBeforeMonth year rule.month + rule.earliest
  let sunday := day + (7 - day % 7) % 7
  ((sunday : Int) - 1) * dayMicros + rule.hour * hourMicros

/-- The yearly period in which a clock is an hour ahead. -/
structure SummerTime where
  starts : SundayRule
  ends : SundayRule
  deriving DecidableEq

/-- Whether an instant is in the summer period of its year. -/
def SummerTime.contains (summer : SummerTime) (micros : Int) : Bool :=
  let year := Date.yearOfDay (micros / dayMicros + 1).toNat
  summer.starts.micros year ≤ micros ∧ micros < summer.ends.micros year

namespace Zone

def all : List Zone := [.utc, .sofia, .newYork, .kolkata, .kathmandu]

def name : Zone → String
  | .utc => "UTC"
  | .sofia => "Europe/Sofia"
  | .newYork => "America/New_York"
  | .kolkata => "Asia/Kolkata"
  | .kathmandu => "Asia/Kathmandu"

def ofName? (name : String) : Option Zone := all.find? fun zone => zone.name == name

/-- Minutes ahead of universal time outside the summer period. -/
def standardMinutes : Zone → Int
  | .utc => 0
  | .sofia => 120
  | .newYork => -300
  | .kolkata => 330
  | .kathmandu => 345

/-- From the last Sunday of March to the last one of October in Sofia; from the second Sunday of
March to the first one of November in New York. -/
def summer? : Zone → Option SummerTime
  | .sofia => some ⟨⟨3, 25, 1⟩, ⟨10, 25, 1⟩⟩
  | .newYork => some ⟨⟨3, 8, 7⟩, ⟨11, 1, 6⟩⟩
  | _ => none

/-- Minutes ahead of universal time at an instant. -/
def minutesAt (zone : Zone) (micros : Int) : Int :=
  zone.standardMinutes + (if zone.summer?.any (·.contains micros) then 60 else 0)

/-- Minutes ahead of universal time when the wall clock shows a time. Reading the clock as summer
time decides whether it is summer. -/
def minutesOfWall (zone : Zone) (wall : Int) : Int :=
  zone.minutesAt (wall - (zone.standardMinutes + 60) * minuteMicros)

/-- The wall clock at an instant, if it is in the calendar. -/
def wall? (zone : Zone) (moment : Moment) : Option Moment :=
  moment.addMicros? (zone.minutesAt moment.micros * minuteMicros)

/-- The instant at which the wall clock shows a time, if it is in the calendar. -/
def instant? (zone : Zone) (wall : Moment) : Option Moment :=
  wall.addMicros? (-(zone.minutesOfWall wall.micros * minuteMicros))

end Zone

/-- A distance from universal time in minutes, as it is written after a time. -/
def offsetChars (minutes : Int) : List Char :=
  (if minutes < 0 then '-' else '+') :: Text.paddedText 2 (minutes.natAbs / 60) ++ [':'] ++
    Text.paddedText 2 (minutes.natAbs % 60)

/-- The written form of an instant on the wall clock of a zone. -/
def Zone.iso? (zone : Zone) (moment : Moment) : Option String :=
  (zone.wall? moment).map fun wall =>
    String.ofList (wall.isoChars 'T' ++ offsetChars (zone.minutesAt moment.micros))

end Herald
