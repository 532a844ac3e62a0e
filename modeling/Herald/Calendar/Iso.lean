import Herald.Calendar.Moment
import Herald.Number.Rounding
import Herald.Text.Blank

/-! # Reading dates and times

A date is written extended (`2026-03-10`), basic (`20260310`) or by week (`2026-W11-2`,
`2026W112`; without a day the Monday is meant). A time may follow after any one character. The
parts of a time come in pairs of digits, with colons between all of them or none, and a fraction
of any length after a point or comma; an offset ends it. A text that does not read as a whole is
read once more by its first ten characters alone, so whatever follows a full date is ignored.
-/

namespace Herald.Iso

open Text

/-- Read exactly `count` plain digits from the front. -/
def digits? : Nat → Nat → List Char → Option (Nat × List Char)
  | 0, total, rest => some (total, rest)
  | _ + 1, _, [] => none
  | count + 1, total, c :: rest =>
    match plainDigit? c with
    | some digit => digits? count (10 * total + digit) rest
    | none => none

/-- Read a date from the front. In the week form the text may end after the week when `size`
characters were given to the date and none is left for the day. -/
def datePrefix? (size : Nat) (chars : List Char) : Option Date := do
  let (year, rest) ← digits? 4 0 chars
  let extended := rest.head? == some '-'
  let rest := if extended then rest.drop 1 else rest
  match rest with
  | 'W' :: rest =>
    let (week, rest) ← digits? 2 0 rest
    if (if extended then 8 else 7) < size then
      let rest ← if extended then (match rest with | '-' :: rest => some rest | _ => none)
        else some rest
      let (dayOfWeek, _) ← digits? 1 0 rest
      Date.ofWeek? year week dayOfWeek
    else Date.ofWeek? year week 1
  | rest =>
    let (month, rest) ← digits? 2 0 rest
    let rest ← if extended then (match rest with | '-' :: rest => some rest | _ => none)
      else some rest
    let (dayOfMonth, _) ← digits? 2 0 rest
    Date.ofCivil? year month dayOfMonth

/-- How many characters belong to the date. In the week forms a run of digits decides whether a
day is present: the parts of a time come in pairs. -/
def dateSize (chars : List Char) : Option Nat :=
  let isDigitAt := fun index => (chars[index]?.bind plainDigit?).isSome
  if chars.length = 7 then some 7
  else if chars[4]? = some '-' then
    if chars[5]? = some 'W' then
      if chars.length < 8 then none
      else if chars[8]? = some '-' then
        if chars.length = 9 then none
        else if isDigitAt 10 then some 8
        else some 10
      else some 8
    else some 10
  else if chars[4]? = some 'W' then
    let run := ((chars.drop 7).takeWhile fun c => (plainDigit? c).isSome).length
    let stop := 7 + run
    if stop < 9 then some stop else if stop % 2 = 0 then some 7 else some 8
  else some 8

/-- A clock reading: hour, minute, second and microsecond. -/
abbrev Clock := Nat × Nat × Nat × Nat

/-- Whether characters are left unread. A NUL ends a text like its end does. -/
def isUnread (rest : List Char) : Bool :=
  match rest.head? with
  | some c => c != '\x00'
  | none => false

/-- A fraction of a second, and whether characters follow it: up to six digits count, further
ones are read over. -/
def fraction? (chars : List Char) : Option (Nat × Bool) :=
  let kept := min 6 chars.length
  match digits? kept 0 (chars.take kept) with
  | some (value, _) =>
    some (value * Number.tenPow (6 - kept),
      isUnread ((chars.drop kept).dropWhile fun c => (plainDigit? c).isSome))
  | none => none

/-- The parts of a time after the first: `parts` more pairs may follow, each after a colon if the
first one was, and a fraction ends the list. A single plain character at the end is left unread. -/
def clockParts? (colons : Bool) : Nat → List Nat → List Char → Option (List Nat × Nat × Bool)
  | _, read, [] => some (read, 0, false)
  | _, read, [last] => if last.toNat < 128 then some (read, 0, isUnread [last]) else none
  | parts, read, mark :: rest =>
    let next? := if colons && mark == ':' then some rest
      else if mark == '.' || mark == ',' then none
      else if colons then none
      else some (mark :: rest)
    match next?, parts with
    | some next, 0 => (fraction? next).map fun micros => (read, micros)
    | some next, parts + 1 =>
      match digits? 2 0 next with
      | some (value, rest) => clockParts? colons parts (read ++ [value]) rest
      | none => none
    | none, _ =>
      if mark == '.' || mark == ',' then (fraction? rest).map fun micros => (read, micros)
      else none

/-- Read a time or the size of an offset, and whether characters are left unread. -/
def clock? (chars : List Char) : Option (Clock × Bool) := do
  let (hour, rest) ← digits? 2 0 chars
  let (parts, micros, unread) ← clockParts? (rest.head? == some ':') 2 [] rest
  return ((hour, parts[0]?.getD 0, parts[1]?.getD 0, micros), unread)

/-- What follows the time: no offset, or a signed number of microseconds less than a day. -/
def offset? : List Char → Option (Option Int)
  | [] => some none
  | ['Z'] => some (some 0)
  | sign :: rest =>
    if sign == '+' || sign == '-' then
      match clock? rest with
      | some ((hour, minute, second, micros), false) =>
        let size : Int := ((hour * 60 + minute) * 60 + second) * 1000000 + micros
        if size < dayMicros then some (some (if sign == '-' then -size else size)) else none
      | _ => none
    else none

/-- A date and time as written, with the offset if one is given. -/
structure Reading where
  moment : Moment
  offset : Option Int

/-- Read a whole text as a date, alone or followed by one character and a time. Characters of the
time may stay unread only where an offset follows. -/
def moment? (chars : List Char) : Option Reading := do
  let size ← dateSize chars
  let date ← datePrefix? size chars
  if chars.length ≤ size then return ⟨Moment.midnight date, none⟩
  let time := chars.drop (size + 1)
  let isZone := fun c => c == '+' || c == '-' || c == 'Z'
  let ((hour, minute, second, micros), unread) ← clock? (time.takeWhile fun c => !isZone c)
  let offset ← offset? (time.dropWhile fun c => !isZone c)
  if unread && offset.isNone then none
  let moment ← Moment.ofClock? date hour minute second micros
  return ⟨moment, offset⟩

/-- The size of a character in UTF-8. -/
def byteSize (c : Char) : Nat := c.utf8Size

/-- Read the first ten characters as a date alone; they must fill 7, 8 or 10 bytes. -/
def leadingDate? (chars : List Char) : Option Date :=
  let first := chars.take 10
  let size := (first.map byteSize).foldl (· + ·) 0
  if size = 7 ∨ size = 8 ∨ size = 10 then datePrefix? size first else none

/-- Every `Z` as the offset zero. -/
def expandZulu (chars : List Char) : List Char :=
  chars.flatMap fun c => if c == 'Z' then "+00:00".toList else [c]

/-- Read a date from a text that starts with one. Blanks around the text do not count. -/
def date? (text : String) : Option Date :=
  let chars := trim text.toList
  match moment? (expandZulu chars) with
  | some reading => some reading.moment.date
  | none => leadingDate? chars

end Herald.Iso
