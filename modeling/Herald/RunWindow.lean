import Herald.Calendar.ZoneName
import Herald.Store.Cell

/-! # Run windows

The hours of the day in which an automated campaign may run, on the wall clock of its zone. The
window starts with its first hour and ends before its last one; a start after the end wraps
midnight. Without both hours, or with equal ones, the window is always open. A row that was
corrected by hand may have hours that are not whole: they bound a window, but nothing starts at
them.
-/

namespace Herald

/-- The first hour of a window and the hour before which it ends. -/
structure RunWindow where
  start : Option Cell
  finish : Option Cell
  deriving DecidableEq

namespace RunWindow

/-- The two hours of a window that is not always open. -/
def hours? (window : RunWindow) : Option (Cell × Cell) :=
  match window.start, window.finish with
  | some start, some finish => if start.same finish then none else some (start, finish)
  | _, _ => none

/-- Whether an hour is in a window that starts and ends at different hours. -/
def includes (start finish : Cell) (hour : Int) : Except Failure Bool := do
  let ordered ← start.lt finish
  let begun ← start.le (.int hour)
  let unfinished ← (Cell.int hour).lt finish
  return if ordered then begun && unfinished else begun || unfinished

/-- Whether the window is open at an hour of the day. -/
def isOpenAtHour (window : RunWindow) (hour : Int) : Except Failure Bool :=
  match window.hours? with
  | some (start, finish) => includes start finish hour
  | none => .ok true

/-- The wall clock of a zone at an instant. -/
def wall (zone : Zone) (moment : Moment) : Except Failure Moment :=
  match zone.wall? moment with
  | some wall => .ok wall
  | none => .error (.outOfRange .date)

/-- Whether the window is open at an instant. -/
def isOpenAt (window : RunWindow) (zone : Zone) (moment : Moment) : Except Failure Bool :=
  match window.hours? with
  | none => .ok true
  | some (start, finish) => do includes start finish (← wall zone moment).hour

/-- The wall time of the next start, at a whole hour, after a wall time outside the window. -/
def openingAt (start : Int) (wall : Moment) : Except Failure Moment :=
  if !isWord start then .error (.outOfRange (if 0 < start then .highHour else .lowHour))
  else if start < 0 then .error .noSuchHour
  else match Moment.ofClock? wall.date start.toNat 0 0 0 with
    | none => .error .noSuchHour
    | some opening =>
      if wall.hour < start then .ok opening
      else (opening.later dayMicros).mapError .outOfRange

/-- The wall time of the next start of a window after a wall time outside it. -/
def opening (start : Cell) (wall : Moment) : Except Failure Moment :=
  match start with
  | .int start => openingAt start wall
  | .double _ => .error (.wrongKind (.hour "float"))
  | .text _ => .error (.wrongKind (.hour "str"))

/-- The instant itself if the window is open then, and otherwise its next start. -/
def nextOpen (window : RunWindow) (zone : Zone) (base : Moment) : Except Failure Moment :=
  match window.hours? with
  | none => .ok base
  | some (start, finish) => do
    let wall ← wall zone base
    if ← includes start finish wall.hour then return base
    let opening ← opening start wall
    match zone.instant? opening with
    | some moment => return moment
    | none => throw (.outOfRange .date)

/-- The zone of a name. -/
def zoneNamed (name : String) : Except Failure Zone :=
  match ZoneName.ofText name with
  | .zone zone => .ok zone
  | .unknown => .error .unknownZone
  | .malformed => .error .malformedZone
  | .area => .error .zoneArea
  | .overlong => .error .overlongZone

/-- Ask about a zone by its name. A window that is always open has its answer without it. -/
def inZoneNamed {α : Type} (window : RunWindow) (name : String) (always : α)
    (ask : Zone → Except Failure α) : Except Failure α :=
  if window.hours?.isNone then .ok always else (zoneNamed name).bind ask

end RunWindow

end Herald
