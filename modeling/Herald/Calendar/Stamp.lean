import Herald.Calendar.Zone
import Herald.Number.Written

/-! # Time stamps of forms

A form gives a time as a date with a clock reading and perhaps a distance from universal time, as a
date alone, or as a count of seconds or milliseconds. The distance is kept when the stamp is written
again, and dropped when it is stored.
-/

namespace Herald

/-- A clock reading, and how many minutes it is ahead of universal time if that is known. -/
structure Stamp where
  wall : Moment
  offset : Option Int
  deriving DecidableEq

namespace Stamp

/-- The written form of a stamp. -/
def iso (stamp : Stamp) : String :=
  String.ofList (stamp.wall.isoChars 'T' ++
    match stamp.offset with
    | some minutes => offsetChars minutes
    | none => [])

/-! ## Texts -/

/-- A run of exactly `count` digits at the start of a text, and what follows it. -/
def fixedDigits? (count : Nat) (chars : List Char) : Option (Nat × List Char) :=
  if chars.length < count then none
  else (Decimal.natural? (chars.take count)).map fun number => (number, chars.drop count)

/-- What follows a character at the start of a text. -/
def after? (c : Char) : List Char → Option (List Char)
  | first :: rest => if first = c then some rest else none
  | [] => none

/-- A date at the start of a text, and what follows it. -/
def dateAt? (chars : List Char) : Option (Date × List Char) := do
  let (year, rest) ← fixedDigits? 4 chars
  let (month, rest) ← fixedDigits? 2 (← after? '-' rest)
  let (day, rest) ← fixedDigits? 2 (← after? '-' rest)
  return (← Date.ofCivil? year month day, rest)

/-- The microseconds of a fraction of a second; digits beyond the sixth are dropped. -/
def fractionMicros (digits : List Char) : Option Nat :=
  Decimal.natural? ((digits ++ List.replicate 6 '0').take 6)

/-- Seconds and microseconds at the place of a clock reading where they may be left out. -/
def secondsAt? (chars : List Char) : Option (Nat × Nat × List Char) :=
  match chars with
  | ':' :: rest => do
    let (second, rest) ← fixedDigits? 2 rest
    match rest with
    | c :: fraction =>
      if c = '.' || c = ',' then
        let digits := fraction.takeWhile Char.isDigit
        if digits.isEmpty then none
        else return (second, ← fractionMicros digits, fraction.dropWhile Char.isDigit)
      else return (second, 0, rest)
    | [] => return (second, 0, rest)
  | rest => some (0, 0, rest)

/-- The distance from universal time at the end of a text. -/
def offset? (chars : List Char) : Option (Option Int) :=
  match chars with
  | [] => some none
  | sign :: rest =>
    if (sign = 'Z' || sign = 'z') && rest.isEmpty then some (some 0)
    else if sign = '+' || sign = '-' || sign = '−' then do
      let (hours, rest) ← fixedDigits? 2 rest
      let rest := (after? ':' rest).getD rest
      let (minutes, rest) ← fixedDigits? 2 rest
      let total : Int := hours * 60 + minutes
      if rest.isEmpty && minutes < 60 && total < 1440 then
        return some (if sign = '+' then total else -total)
      else none
    else none

/-- A date and a clock reading. -/
def dateTime? (chars : List Char) : Option Stamp := do
  let (date, rest) ← dateAt? chars
  match rest with
  | separator :: rest =>
    if ['T', 't', ' ', '_'].contains separator then
      let (hour, rest) ← fixedDigits? 2 rest
      let (minute, rest) ← fixedDigits? 2 (← after? ':' rest)
      let (second, micros, rest) ← secondsAt? rest
      return ⟨← Moment.ofClock? date hour minute second micros, ← offset? rest⟩
    else none
  | [] => none

/-- A date alone stands for its midnight. -/
def dateOnly? (chars : List Char) : Option Stamp := do
  let (date, rest) ← dateAt? chars
  if rest.isEmpty then return ⟨.midnight date, none⟩ else none

/-! ## Counts -/

/-- What a text or a count says about a time. -/
inductive Reading
  | found (stamp : Stamp)
  /-- A time of the year before the first one, which the calendar does not have. -/
  | yearZero
  | unreadable
  deriving DecidableEq

namespace Reading

def ofOption : Option Stamp → Reading
  | some stamp => .found stamp
  | none => .unreadable

/-- Another reading where there is none. -/
def orElse : Reading → Reading → Reading
  | .unreadable, other => other
  | reading, _ => reading

end Reading

/-- The microseconds from the start of year 1 to the start of 1970. -/
def epochMicros : Int := 62135596800000000

/-- The microseconds of the year zero, which is a leap year. -/
def yearZeroMicros : Int := 31622400000000

/-- Counts beyond this one are milliseconds. -/
def secondsLimit : Nat := 20000000000

/-- The stamp of a count of microseconds since 1970. -/
def ofEpoch (micros : Int) : Reading :=
  match Moment.ofMicros? (epochMicros + micros) with
  | some wall => .found ⟨wall, some 0⟩
  | none =>
    if -yearZeroMicros ≤ epochMicros + micros ∧ epochMicros + micros < 0 then .yearZero
    else .unreadable

/-- The microseconds that a count of this magnitude counts by. -/
def microsPerCount (isLarge : Bool) : Nat := if isLarge then 1000 else 1000000

/-- The stamp of a whole count. -/
def ofCount (count : Int) : Reading :=
  ofEpoch (count * microsPerCount (decide (secondsLimit < count.natAbs)))

/-- The stamp of a count with a fraction. What the count is above the whole number below it is
rounded to microseconds, a half upwards, with a double as the result of each step. -/
def ofDouble : Binary64 → Reading
  | .finite negative units =>
    let one := Number.twoPow Binary64.unitBits
    let scale := microsPerCount (decide (secondsLimit * one < units))
    let signed := Binary64.signedUnits negative units
    let fraction := Binary64.roundUnits (signed % one).toNat 1
    let micros := Binary64.roundUnits (fraction * scale) 1
    ofEpoch (signed / one * scale + Number.roundHalfUp micros one)
  | _ => .unreadable

/-- The largest whole part of a count that is written with a point. -/
def largestWhole : Nat := 9223372036854775807

/-- A count that a text writes. An exponent is allowed only behind a point. -/
def ofCountText (chars : List Char) : Reading :=
  match Number.integer? chars with
  | some count => ofCount count
  | none =>
    let whole := (chars.takeWhile (· != '.')).filter Char.isDigit
    if chars.contains '.' && (Decimal.natural? whole).all (decide <| · ≤ largestWhole) then
      match Number.double? chars with
      | some count => ofDouble count
      | none => .unreadable
    else .unreadable

/-- A time that a text writes in the year zero: it would be one in the year 400, which has the same
days. -/
def ofYearZero (chars : List Char) : Reading :=
  if chars.take 4 == ['0', '0', '0', '0'] then
    let moved := ['0', '4', '0', '0'] ++ chars.drop 4
    if (dateTime? moved).isSome || (dateOnly? moved).isSome then .yearZero else .unreadable
  else .unreadable

/-- Read the text of a stamp. -/
def ofText (text : String) : Reading :=
  let chars := text.toList
  (Reading.ofOption (dateTime? chars)).orElse
    ((ofCountText chars).orElse ((Reading.ofOption (dateOnly? chars)).orElse (ofYearZero chars)))

end Stamp

end Herald
