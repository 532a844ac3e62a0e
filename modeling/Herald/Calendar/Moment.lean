import Herald.Calendar.Date

/-! # Moments

A moment is a date with a time of day to the microsecond and no zone: a count of microseconds
from the start of year 1. Stored moments are in universal time.
-/

namespace Herald

/-- Microseconds of a minute. -/
def minuteMicros : Nat := 60000000

/-- Microseconds of a day. -/
def dayMicros : Nat := 86400000000

/-- A date and time of day, as microseconds since the start of year 1. -/
structure Moment where
  micros : Nat
  micros_lt : micros < lastDay * dayMicros
  deriving DecidableEq

namespace Moment

instance : LE Moment := ⟨fun a b => a.micros ≤ b.micros⟩

instance : LT Moment := ⟨fun a b => a.micros < b.micros⟩

instance (a b : Moment) : Decidable (a ≤ b) := inferInstanceAs (Decidable (a.micros ≤ b.micros))

instance (a b : Moment) : Decidable (a < b) := inferInstanceAs (Decidable (a.micros < b.micros))

/-- The moment of a count of microseconds, if it is in the calendar. -/
def ofMicros? (micros : Int) : Option Moment :=
  if h : 0 ≤ micros ∧ micros < (lastDay * dayMicros : Nat) then
    some ⟨micros.toNat, by omega⟩
  else none

def addMicros? (moment : Moment) (micros : Int) : Option Moment :=
  ofMicros? (moment.micros + micros)

def addDays? (moment : Moment) (days : Int) : Option Moment :=
  moment.addMicros? (days * dayMicros)

/-- The moment a number of microseconds later. -/
def later (moment : Moment) (micros : Int) : Except RangeFault Moment :=
  match moment.addMicros? micros with
  | some moment => .ok moment
  | none => .error (.ofDuration (micros / dayMicros))

/-- The moment a number of microseconds earlier. -/
def earlier (moment : Moment) (micros : Int) : Except RangeFault Moment :=
  match moment.addMicros? (-micros) with
  | some moment => .ok moment
  | none => .error (.ofDuration (micros / dayMicros))

/-- The date of a moment. -/
def date (moment : Moment) : Date :=
  ⟨moment.micros / dayMicros + 1, Nat.le_add_left 1 _, by
    have := moment.micros_lt
    have : moment.micros / dayMicros < lastDay :=
      (Nat.div_lt_iff_lt_mul (by decide)).2 this
    omega⟩

/-- Microseconds since midnight. -/
def timeOfDay (moment : Moment) : Nat := moment.micros % dayMicros

def hour (moment : Moment) : Nat := moment.timeOfDay / 3600000000

def minute (moment : Moment) : Nat := moment.timeOfDay / 60000000 % 60

def second (moment : Moment) : Nat := moment.timeOfDay / 1000000 % 60

def microsecond (moment : Moment) : Nat := moment.timeOfDay % 1000000

/-- The moment of a date and a time of day. -/
def ofDate (date : Date) (time : Nat) (h : time < dayMicros) : Moment :=
  ⟨(date.day - 1) * dayMicros + time, by
    have low := date.one_le_day
    have high := date.day_le_last
    have : (date.day - 1 + 1) * dayMicros ≤ lastDay * dayMicros :=
      Nat.mul_le_mul_right _ (by omega)
    rw [Nat.add_mul] at this
    omega⟩

def midnight (date : Date) : Moment := ofDate date 0 (by decide)

/-- The moment of a date and clock reading, if the reading exists. -/
def ofClock? (date : Date) (hour minute second microsecond : Nat) : Option Moment :=
  if h : hour < 24 ∧ minute < 60 ∧ second < 60 ∧ microsecond < 1000000 then
    some (ofDate date (((hour * 60 + minute) * 60 + second) * 1000000 + microsecond)
      (by unfold dayMicros; omega))
  else none

/-- The time of day, `HH:MM:SS`, with six more places if it is not a whole second. -/
def clockChars (moment : Moment) : List Char :=
  Text.paddedText 2 moment.hour ++ [':'] ++ Text.paddedText 2 moment.minute ++ [':'] ++
    Text.paddedText 2 moment.second ++
    (if moment.microsecond = 0 then [] else '.' :: Text.paddedText 6 moment.microsecond)

/-- The written form, with a chosen character between date and time. -/
def isoChars (moment : Moment) (separator : Char) : List Char :=
  moment.date.isoChars ++ [separator] ++ moment.clockChars

def iso (moment : Moment) : String := String.ofList (moment.isoChars 'T')

/-- The written form with a blank between date and time. -/
def spaced (moment : Moment) : String := String.ofList (moment.isoChars ' ')

end Moment

end Herald
