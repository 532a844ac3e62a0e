import Herald.Text.Digit
import Herald.Fault

/-! # Calendar dates

A date is a day number of the Gregorian calendar, day 1 being the first of January of year 1 and
the last one the end of year 9999. Order and distance are those of day numbers; year, month and
day of the month are computed from the number when a date is read or written.
-/

namespace Herald

/-- The number of the last day of year 9999. -/
def lastDay : Nat := 3652059

/-- A day of the years 1 to 9999. -/
structure Date where
  day : Nat
  one_le_day : 1 ≤ day
  day_le_last : day ≤ lastDay
  deriving DecidableEq

namespace Date

instance : LE Date := ⟨fun a b => a.day ≤ b.day⟩

instance : LT Date := ⟨fun a b => a.day < b.day⟩

instance (a b : Date) : Decidable (a ≤ b) := inferInstanceAs (Decidable (a.day ≤ b.day))

instance (a b : Date) : Decidable (a < b) := inferInstanceAs (Decidable (a.day < b.day))

/-- The date of a day number, if it is in the calendar. -/
def ofDay? (day : Int) : Option Date :=
  if h : 1 ≤ day ∧ day ≤ lastDay then
    some ⟨day.toNat, by omega, by have := h.2; unfold lastDay at *; omega⟩
  else none

/-- The date `days` later, if it is in the calendar. -/
def addDays? (date : Date) (days : Int) : Option Date :=
  ofDay? (date.day + days)

/-- The date a number of days later. -/
def later (date : Date) (days : Int) : Except RangeFault Date :=
  match date.addDays? days with
  | some date => .ok date
  | none => .error (.ofDuration days)

/-- The date a number of days earlier. -/
def earlier (date : Date) (days : Int) : Except RangeFault Date :=
  match date.addDays? (-days) with
  | some date => .ok date
  | none => .error (.ofDuration days)

/-! ## Years and months -/

def isLeapYear (year : Nat) : Bool :=
  year % 4 == 0 && (year % 100 != 0 || year % 400 == 0)

/-- How many days come before a year. -/
def daysBeforeYear (year : Nat) : Nat :=
  let before := year - 1
  before * 365 + before / 4 - before / 100 + before / 400

/-- The lengths of the months of a year. -/
def monthLengths (year : Nat) : List Nat :=
  [31, if isLeapYear year then 29 else 28, 31, 30, 31, 30, 31, 31, 30, 31, 30, 31]

def daysInMonth (year month : Nat) : Nat :=
  (monthLengths year)[month - 1]?.getD 0

/-- How many days of a year come before a month. -/
def daysBeforeMonth (year month : Nat) : Nat :=
  ((monthLengths year).take (month - 1)).foldl (· + ·) 0

/-- The date of a year, month and day of the month, if there is one. -/
def ofCivil? (year month dayOfMonth : Nat) : Option Date :=
  if 1 ≤ year ∧ year ≤ 9999 ∧ 1 ≤ month ∧ month ≤ 12 ∧ 1 ≤ dayOfMonth ∧
      dayOfMonth ≤ daysInMonth year month then
    ofDay? (daysBeforeYear year + daysBeforeMonth year month + dayOfMonth)
  else none

/-- The year of a day number. The average length of a year gives a guess that is right or one too
large. -/
def yearOfDay (day : Nat) : Nat :=
  let guess := (day * 400) / 146097 + 1
  if daysBeforeYear guess < day then
    if daysBeforeYear (guess + 1) < day then guess + 1 else guess
  else guess - 1

def year (date : Date) : Nat := yearOfDay date.day

/-- Split a day of a year by month lengths: the month and the day of the month. -/
def splitDay (dayOfYear : Nat) : List Nat → Nat × Nat
  | [] => (1, dayOfYear)
  | length :: rest =>
    if dayOfYear ≤ length then (1, dayOfYear)
    else
      let (month, dayOfMonth) := splitDay (dayOfYear - length) rest
      (month + 1, dayOfMonth)

/-- The month of a date and its day of the month. -/
def monthDay (date : Date) : Nat × Nat :=
  splitDay (date.day - daysBeforeYear date.year) (monthLengths date.year)

/-- The day of the week, Monday being 0. -/
def weekday (date : Date) : Nat := (date.day + 6) % 7

/-- The written form, `YYYY-MM-DD`. -/
def isoChars (date : Date) : List Char :=
  let (month, dayOfMonth) := date.monthDay
  Text.paddedText 4 date.year ++ ['-'] ++ Text.paddedText 2 month ++ ['-'] ++
    Text.paddedText 2 dayOfMonth

def iso (date : Date) : String := String.ofList date.isoChars

/-! ## Weeks -/

/-- The day number of the Monday of week 1, the week that holds the first Thursday of the year. -/
def weekOneMonday (year : Nat) : Int :=
  let first : Int := daysBeforeYear year + 1
  let weekday := (first + 6) % 7
  let monday := first - weekday
  if 3 < weekday then monday + 7 else monday

/-- Whether a year has a week 53: it starts on a Thursday, or is leap and starts on a Wednesday. -/
def hasWeek53 (year : Nat) : Bool :=
  let weekday := (daysBeforeYear year + 7) % 7
  weekday == 3 || (weekday == 2 && isLeapYear year)

/-- The date of a year, week and day of the week, Monday being 1. -/
def ofWeek? (year week dayOfWeek : Nat) : Option Date :=
  if 1 ≤ year ∧ year ≤ 9999 ∧ 1 ≤ week ∧ (week ≤ 52 ∨ week = 53 ∧ hasWeek53 year) ∧
      1 ≤ dayOfWeek ∧ dayOfWeek ≤ 7 then
    ofDay? (weekOneMonday year + (week - 1) * 7 + (dayOfWeek - 1))
  else none

end Date

end Herald
