import Herald.Proofs.WallClock
import Herald.Proofs.Waiting

/-! # When a run window opens next

`RunWindow.nextOpen` computes an instant from the hour of the wall clock; `RunWindow.isOpenAt` looks
at the clock at any instant. The two agree: from the one to the other instant the clock shows hours
at which the window is closed, whether it is put forward or back meanwhile, and at the end it shows
the first hour of the window, unless it skips that hour.
-/

namespace Herald

variable {zone : Zone}

namespace Moment

theorem micros_of_ofMicros? {micros : Int} {moment : Moment}
    (found : ofMicros? micros = some moment) : (moment.micros : Int) = micros := by
  unfold ofMicros? at found
  split at found
  · cases found
    dsimp only
    omega
  · cases found

theorem ofMicros?_micros (moment : Moment) : ofMicros? moment.micros = some moment := by
  have inside := moment.micros_lt
  exact dif_pos ⟨by omega, by exact_mod_cast inside⟩

/-- The hour of the day is told by the hours that have gone by. -/
theorem hour_eq (moment : Moment) : (moment.hour : Int) = moment.micros / hourMicros % 24 := by
  unfold hour timeOfDay dayMicros hourMicros
  omega

/-- The date is told by the days that have gone by. -/
theorem date_eq_iff {moment other : Moment} : moment.date = other.date ↔
    (moment.micros : Int) / hourMicros / 24 = other.micros / hourMicros / 24 := by
  rw [date, date, Date.mk.injEq]
  unfold dayMicros hourMicros
  omega

/-- A moment that is some microseconds later. -/
theorem micros_of_later {moment after : Moment} {micros : Int}
    (found : moment.later micros = .ok after) : (after.micros : Int) = moment.micros + micros := by
  unfold later addMicros? at found
  split at found
  · rename_i moment' added
    cases found
    exact micros_of_ofMicros? added
  · cases found

/-- The moment of a date and a whole hour. -/
theorem micros_of_ofClock? {date : Date} {hour : Nat} {moment : Moment}
    (found : ofClock? date hour 0 0 0 = some moment) :
    hour < 24 ∧ moment.micros = (date.day - 1) * dayMicros + hour * 3600000000 := by
  unfold ofClock? at found
  split at found
  · rename_i inside
    cases found
    refine ⟨inside.1, ?_⟩
    simp only [ofDate]
    omega
  · cases found

end Moment

namespace RunWindow

variable {window : RunWindow} {base next : Moment}

/-! ## Hours -/

/-- Between whole hours a window is open from the first one on until the last one comes. -/
theorem includes_int (first last hour : Int) : includes (.int first) (.int last) hour =
    .ok (if first < last then decide (first ≤ hour) && decide (hour < last)
      else decide (first ≤ hour) || decide (hour < last)) := by
  simp only [includes, Cell.lt, Cell.le, bind, Except.bind, pure, Except.pure, decide_eq_true_eq]

/-- A window of whole hours that is not always open. -/
theorem IsWhole.hours {start finish : Cell} (whole : window.IsWhole)
    (hours : window.hours? = some (start, finish)) : ∃ first last : Int,
      start = .int first ∧ finish = .int last ∧ window.start = some (.int first) := by
  unfold hours? at hours
  split at hours
  · rename_i start' finish' started finished
    obtain ⟨first, rfl⟩ := whole.1 start' started
    obtain ⟨last, rfl⟩ := whole.2 finish' finished
    split at hours
    · cases hours
    · cases hours
      exact ⟨first, last, rfl, rfl, started⟩
  · cases hours

/-- A window opens at its first hour, within a day. -/
theorem opening_spec {start : Cell} {wall opening : Moment}
    (found : RunWindow.opening start wall = .ok opening) : ∃ hours : Int,
      start = .int (hours % 24) ∧ (opening.micros : Int) = hours * hourMicros ∧
        wall.micros / hourMicros < hours ∧ hours ≤ wall.micros / hourMicros + 24 := by
  cases start with
  | double => cases found
  | text => cases found
  | int first =>
    simp only [RunWindow.opening, openingAt] at found
    split at found
    · cases found
    split at found
    · cases found
    rename_i positive
    split at found
    · cases found
    rename_i atClock clock
    obtain ⟨inside, micros⟩ := Moment.micros_of_ofClock? clock
    have hour := wall.hour_eq
    simp only [Moment.date, Nat.add_sub_cancel] at micros
    split at found
    · rename_i before
      cases found
      unfold hourMicros dayMicros at *
      refine ⟨wall.micros / 86400000000 * 24 + first, ?_, ?_, ?_, ?_⟩
      · exact congrArg Cell.int (by omega)
      all_goals omega
    · rename_i after
      cases later : atClock.later dayMicros with
      | error fault =>
        rw [later] at found
        cases found
      | ok moved =>
        rw [later] at found
        cases found
        have moved := Moment.micros_of_later later
        unfold hourMicros dayMicros at *
        refine ⟨wall.micros / 86400000000 * 24 + 24 + first, ?_, ?_, ?_, ?_⟩
        · exact congrArg Cell.int (by omega)
        all_goals omega

/-! ## Instants -/

theorem wall_ok {moment wall : Moment} (found : RunWindow.wall zone moment = .ok wall) :
    (wall.micros : Int) = zone.shown moment.micros := by
  unfold RunWindow.wall at found
  split at found
  · rename_i shown
    cases found
    exact Moment.micros_of_ofMicros? shown
  · cases found

/-- How the next opening is found: the window is open at the instant, or the clock is looked at. -/
inductive Found (window : RunWindow) (zone : Zone) (base next : Moment) : Prop
  | open (same : next = base) (opens : window.isOpenAt zone base = .ok true)
  | closed {start finish : Cell} {wall opening : Moment}
    (hours : window.hours? = some (start, finish)) (shown : RunWindow.wall zone base = .ok wall)
    (excludes : includes start finish wall.hour = .ok false)
    (starts : RunWindow.opening start wall = .ok opening)
    (instant : zone.instant? opening = some next)

theorem nextOpen_found (found : window.nextOpen zone base = .ok next) :
    Found window zone base next := by
  unfold nextOpen at found
  cases hours : window.hours? with
  | none =>
    rw [hours] at found
    cases found
    exact .open rfl (by rw [isOpenAt, hours])
  | some both =>
    obtain ⟨start, finish⟩ := both
    rw [hours] at found
    obtain ⟨wall, shown, found⟩ := ok_of_bind found
    obtain ⟨includes?, tells, found⟩ := ok_of_bind found
    cases includes? with
    | true =>
      cases found
      refine .open rfl ?_
      rw [isOpenAt, hours]
      simp only [shown, bind, Except.bind, tells]
    | false =>
      obtain ⟨opening, starts, found⟩ := ok_of_bind found
      cases instant : zone.instant? opening with
      | none =>
        rw [instant] at found
        cases found
      | some moment =>
        rw [instant] at found
        cases found
        exact .closed hours shown tells starts instant

/-- A window that is open has its next opening at once. -/
theorem nextOpen_of_isOpenAt (opens : window.isOpenAt zone base = .ok true) :
    window.nextOpen zone base = .ok base := by
  unfold nextOpen
  unfold isOpenAt at opens
  cases hours : window.hours? with
  | none => rfl
  | some both =>
    simp only [hours] at opens
    obtain ⟨wall, shown, includes⟩ := ok_of_bind opens
    simp only [shown, includes, bind, Except.bind, if_true]
    rfl

/-- A window that is closed opens later, whatever bounds it. -/
theorem base_lt_nextOpen (found : window.nextOpen zone base = .ok next)
    (closed : window.isOpenAt zone base ≠ .ok true) : base < next := by
  cases nextOpen_found found with
  | «open» _ opens => exact absurd opens closed
  | closed hours shown excludes starts instant =>
    obtain ⟨hours, -, opening, after, -⟩ := opening_spec starts
    rw [Zone.instant?_eq, opening] at instant
    have instant := Moment.micros_of_ofMicros? instant
    rw [wall_ok shown] at after
    change base.micros < next.micros
    by_contra earlier
    -- The clock would already have shown the first hour at the instant, or a later one.
    have shows : hours ≤ zone.shown next.micros / hourMicros := by
      rcases Zone.shown_instantOf zone hours with same | ⟨skipped, -⟩ <;> rw [instant] <;>
        unfold hourMicros at * <;> omega
    have backwards : zone.shown next.micros / hourMicros ≤ zone.shown base.micros / hourMicros :=
      Zone.shown_hour_mono (by omega)
    omega

/-- The next opening does not lie in the past, whatever bounds the window. -/
theorem base_le_nextOpen (found : window.nextOpen zone base = .ok next) : base ≤ next := by
  by_cases opens : window.isOpenAt zone base = .ok true
  · rw [nextOpen_of_isOpenAt opens] at found
    cases found
    exact Nat.le_refl _
  · exact Nat.le_of_lt (base_lt_nextOpen found opens)

/-- On the day of an instant the clock shows the first hour of the window. -/
def StartsOn (window : RunWindow) (zone : Zone) (moment : Moment) : Prop :=
  ∀ first, window.start = some (.int first) → ∃ time shown wall, zone.wall? time = some shown ∧
    zone.wall? moment = some wall ∧ shown.date = wall.date ∧ (shown.hour : Int) = first

/-- From an instant on, another one is the first at which the window is open: before it the window
is closed, and then it is open, unless summer time takes the first hour of the window away that
day. -/
structure OpensFirst (window : RunWindow) (zone : Zone) (base next : Moment) : Prop where
  later : base ≤ next
  closed : ∀ time : Moment, base ≤ time → time < next → window.isOpenAt zone time ≠ .ok true
  opens : zone.summer? = none ∨ window.StartsOn zone next → window.isOpenAt zone next = .ok true

/-- Of the hours up to the next first hour none is in a window that is closed. -/
theorem not_includes_until {first last shown hours hour : Int}
    (excludes : includes (.int first) (.int last) (shown % 24) = .ok false)
    (starts : first = hours % 24) (within : hours ≤ shown + 24) (since : shown ≤ hour)
    (until' : hour < hours) : includes (.int first) (.int last) (hour % 24) = .ok false := by
  rw [includes_int, Except.ok.injEq] at excludes ⊢
  split at excludes
  · rw [if_pos ‹first < last›]
    simp only [Bool.and_eq_false_iff, decide_eq_false_iff_not] at excludes ⊢
    omega
  · rw [if_neg ‹¬first < last›]
    simp only [Bool.or_eq_false_iff, decide_eq_false_iff_not] at excludes ⊢
    omega

/-- A window of whole hours includes its first one. -/
theorem includes_first (first last : Int) :
    includes (.int first) (.int last) first = .ok true := by
  rw [includes_int, Except.ok.injEq]
  split
  · simpa using ‹first < last›
  · simp

/-- What is computed as the next opening is the first instant at which the window is open. -/
theorem nextOpen_opensFirst (whole : window.IsWhole) (found : window.nextOpen zone base = .ok next) :
    window.OpensFirst zone base next := by
  refine ⟨base_le_nextOpen found, fun time since until' => ?_, fun shows => ?_⟩
  · cases nextOpen_found found with
    | «open» same => exact absurd (same ▸ until') (Nat.not_lt.mpr since)
    | @closed start finish wall opening hours shown excludes starts instant =>
      obtain ⟨first, last, rfl, rfl, -⟩ := whole.hours hours
      obtain ⟨count, same, micros, -, within⟩ := opening_spec starts
      rw [Zone.instant?_eq, micros] at instant
      have instant := Moment.micros_of_ofMicros? instant
      have since : (base.micros : Int) ≤ time.micros := Int.ofNat_le.mpr since
      have until' : (time.micros : Int) < next.micros := Int.ofNat_lt.mpr until'
      have ahead : zone.shown time.micros < count * hourMicros :=
        Zone.shown_lt_of_lt_instantOf (instant ▸ until')
      rw [isOpenAt, hours]
      cases clock : RunWindow.wall zone time with
      | error failure => exact nofun
      | ok wall' =>
        have onward : zone.shown base.micros / hourMicros ≤ zone.shown time.micros / hourMicros :=
          Zone.shown_hour_mono since
        rw [wall.hour_eq, wall_ok shown] at excludes
        rw [wall_ok shown] at within
        have closed : includes (.int first) (.int last) wall'.hour = .ok false := by
          rw [wall'.hour_eq, wall_ok clock]
          refine not_includes_until excludes (Cell.int.inj same) within onward ?_
          unfold hourMicros at ahead ⊢
          omega
        simp only [bind, Except.bind, closed]
        exact nofun
  · cases nextOpen_found found with
    | «open» same opens => exact same ▸ opens
    | @closed start finish wall opening hours shown excludes starts instant =>
      obtain ⟨first, last, rfl, rfl, started⟩ := whole.hours hours
      obtain ⟨count, same, micros, -, -⟩ := opening_spec starts
      rw [Zone.instant?_eq, micros] at instant
      have instant := Moment.micros_of_ofMicros? instant
      rcases Zone.shown_instantOf zone count with there | ⟨skipped, summer, has, forward, before⟩
      · have clock : zone.wall? next = some opening := by
          rw [Zone.wall?_eq, instant, there, ← micros, Moment.ofMicros?_micros]
        have hour : (opening.hour : Int) = first := by
          rw [opening.hour_eq, micros, Cell.int.inj same, Int.mul_ediv_cancel _ (by decide)]
        rw [isOpenAt, hours]
        simp only [RunWindow.wall, clock, bind, Except.bind, hour, includes_first]
      · -- The clock skips the first hour of the window, so no instant of that day shows it.
        exfalso
        rcases shows with none | starts
        · rw [has] at none
          cases none
        · obtain ⟨time, shown', wall', clock, clock', date, hour⟩ := starts first started
          have late := Zone.skipped_hour has forward before
          have shown_eq := Moment.micros_of_ofMicros? (zone.wall?_eq time ▸ clock)
          have wall_eq := Moment.micros_of_ofMicros? (zone.wall?_eq next ▸ clock')
          rw [Moment.date_eq_iff, wall_eq, instant, skipped] at date
          rw [shown'.hour_eq, Cell.int.inj same] at hour
          rcases Nat.lt_or_ge time.micros next.micros with early | onward
          · have ahead : zone.shown time.micros < count * hourMicros :=
              Zone.shown_lt_of_lt_instantOf (instant ▸ Int.ofNat_lt.mpr early)
            unfold hourMicros at *
            omega
          · have onward : zone.shown next.micros / hourMicros ≤ zone.shown time.micros / hourMicros :=
              Zone.shown_hour_mono (Int.ofNat_le.mpr onward)
            rw [instant, skipped] at onward
            unfold hourMicros at *
            omega

end RunWindow

end Herald
