import Herald.Calendar.Zone

/-! # Wall clocks

A clock is put forward or back by an hour, and that happens on the hour: the distance of a wall
clock from universal time is the same through every hour of universal time. So the hours that a
clock shows never run backwards, and the instant at which a whole hour is to be shown is the first
one at which the clock has come that far, even where the spring change skips the hour.
-/

namespace Herald

namespace SundayRule

/-- A rule takes effect at its hour of a day. -/
theorem micros_eq (rule : SundayRule) (year : Nat) :
    ∃ day, rule.micros year = day * dayMicros + rule.hour * hourMicros := ⟨_, rfl⟩

/-- A rule takes effect on the hour. -/
theorem micros_whole (rule : SundayRule) (year : Nat) :
    ∃ hours, rule.micros year = hours * hourMicros := by
  obtain ⟨day, same⟩ := rule.micros_eq year
  refine ⟨day * 24 + rule.hour, ?_⟩
  unfold hourMicros dayMicros at *
  omega

end SundayRule

namespace SummerTime

/-- It is summer or not through every hour. -/
theorem contains_congr (summer : SummerTime) {first second : Int}
    (same : first / hourMicros = second / hourMicros) :
    summer.contains first = summer.contains second := by
  have days : first / dayMicros = second / dayMicros := by
    unfold hourMicros at same
    unfold dayMicros
    omega
  unfold contains
  rw [days]
  obtain ⟨start, starts⟩ :=
    summer.starts.micros_whole (Date.yearOfDay (second / dayMicros + 1).toNat)
  obtain ⟨finish, ends⟩ := summer.ends.micros_whole (Date.yearOfDay (second / dayMicros + 1).toNat)
  dsimp only
  rw [starts, ends, decide_eq_decide]
  unfold hourMicros at *
  omega

/-- Where summer begins, a day or the summer period does. -/
theorem begins (summer : SummerTime) {hours : Int}
    (contains : summer.contains (hours * hourMicros) = true)
    (before : summer.contains (hours * hourMicros - hourMicros) = false) :
    ∃ day : Int, hours * hourMicros = day * dayMicros ∨
      hours * hourMicros = day * dayMicros + summer.starts.hour * hourMicros := by
  by_cases days : (hours * hourMicros - hourMicros) / dayMicros = hours * hourMicros / dayMicros
  · unfold SummerTime.contains at contains before
    rw [days] at before
    generalize Date.yearOfDay _ = year at contains before
    obtain ⟨day, starts⟩ := summer.starts.micros_eq year
    obtain ⟨start, whole⟩ := summer.starts.micros_whole year
    refine ⟨day, .inr ?_⟩
    simp only [decide_eq_true_eq, decide_eq_false_iff_not] at contains before
    rw [← starts]
    unfold hourMicros at *
    omega
  · refine ⟨hours * hourMicros / dayMicros, .inl ?_⟩
    unfold hourMicros dayMicros at *
    omega

end SummerTime

namespace Zone

variable {zone : Zone} {first second wall : Int}

/-- What the wall clock shows at an instant, counted like instants are. -/
def shown (zone : Zone) (micros : Int) : Int := micros + zone.minutesAt micros * minuteMicros

/-- The instant of a wall time, counted likewise. -/
def instantOf (zone : Zone) (wall : Int) : Int := wall - zone.minutesOfWall wall * minuteMicros

theorem wall?_eq (moment : Moment) : zone.wall? moment = Moment.ofMicros? (zone.shown moment.micros) :=
  rfl

theorem instant?_eq (wall : Moment) :
    zone.instant? wall = Moment.ofMicros? (zone.instantOf wall.micros) := by
  rw [instant?, Moment.addMicros?, instantOf, Int.sub_eq_add_neg]

/-- A clock shows the time of its zone, or is an hour ahead of it in the summer. -/
theorem minutesAt_cases (zone : Zone) (micros : Int) :
    (zone.minutesAt micros = zone.standardMinutes ∧
        ∀ summer, zone.summer? = some summer → summer.contains micros = false) ∨
      zone.minutesAt micros = zone.standardMinutes + 60 ∧
        ∃ summer, zone.summer? = some summer ∧ summer.contains micros = true := by
  unfold minutesAt
  cases zone.summer? with
  | none => exact .inl ⟨by simp, nofun⟩
  | some summer =>
    cases contains : summer.contains micros with
    | true => exact .inr ⟨by simp [contains], summer, rfl, contains⟩
    | false => exact .inl ⟨by simp [contains], by rintro _ ⟨⟩; exact contains⟩

theorem minutesAt_congr (same : first / hourMicros = second / hourMicros) :
    zone.minutesAt first = zone.minutesAt second := by
  unfold minutesAt
  cases zone.summer? with
  | none => simp
  | some summer => simp only [Option.any_some, summer.contains_congr same]

/-- Zones with summer time are whole hours from universal time. -/
theorem whole_of_summer {summer : SummerTime} (has : zone.summer? = some summer) :
    ∃ hours, zone.standardMinutes = 60 * hours := by
  cases zone with
  | sofia => exact ⟨2, rfl⟩
  | newYork => exact ⟨-5, rfl⟩
  | _ => cases has

/-- The hours that a clock shows never run backwards. -/
theorem shown_hour_mono (le : first ≤ second) :
    zone.shown first / hourMicros ≤ zone.shown second / hourMicros := by
  have near : first / hourMicros = second / hourMicros →
    zone.minutesAt first = zone.minutesAt second := minutesAt_congr
  unfold shown hourMicros minuteMicros at *
  rcases minutesAt_cases zone first with ⟨early, _⟩ | ⟨early, summer, has, _⟩
  · rcases minutesAt_cases zone second with ⟨late, _⟩ | ⟨late, _⟩ <;> omega
  · -- Where the clock is put back, an hour of universal time has gone by.
    obtain ⟨hours, whole⟩ := whole_of_summer has
    rcases minutesAt_cases zone second with ⟨late, _⟩ | ⟨late, _⟩ <;> omega

/-- Before the instant of a whole hour the clock has not come so far. -/
theorem shown_lt_of_lt_instantOf {hours : Int}
    (before : first < zone.instantOf (hours * hourMicros)) :
    zone.shown first < hours * hourMicros := by
  unfold instantOf minutesOfWall at before
  generalize summery_eq : hours * hourMicros - (zone.standardMinutes + 60) * minuteMicros =
    summery at before
  have near : first / hourMicros = summery / hourMicros →
    zone.minutesAt first = zone.minutesAt summery := minutesAt_congr
  unfold shown hourMicros minuteMicros at *
  rcases minutesAt_cases zone summery with ⟨standard, _⟩ | ⟨forward, _⟩
  · rcases minutesAt_cases zone first with ⟨early, _⟩ | ⟨early, summer, has, _⟩
    · omega
    · obtain ⟨hours', whole⟩ := whole_of_summer has
      omega
  · rcases minutesAt_cases zone first with ⟨early, _⟩ | ⟨early, _⟩ <;> omega

/-- At the instant of a whole hour the clock shows it, or skips it: then the clock is put forward at
that very instant. -/
theorem shown_instantOf (zone : Zone) (hours : Int) :
    zone.shown (zone.instantOf (hours * hourMicros)) = hours * hourMicros ∨
      zone.shown (zone.instantOf (hours * hourMicros)) = hours * hourMicros + hourMicros ∧
        ∃ summer, zone.summer? = some summer ∧
          summer.contains (zone.instantOf (hours * hourMicros)) = true ∧
          summer.contains (zone.instantOf (hours * hourMicros) - hourMicros) = false := by
  unfold instantOf minutesOfWall
  generalize summery_eq : hours * hourMicros - (zone.standardMinutes + 60) * minuteMicros = summery
  rcases minutesAt_cases zone summery with ⟨standard, winter⟩ | ⟨forward, _⟩
  · have later : hours * hourMicros - zone.minutesAt summery * minuteMicros = summery + hourMicros := by
      unfold hourMicros minuteMicros at *
      omega
    rw [later, Int.add_sub_cancel]
    rcases minutesAt_cases zone (summery + hourMicros) with ⟨late, _⟩ | ⟨late, summer, has, contains⟩
    · left
      rw [shown, late]
      unfold hourMicros minuteMicros at *
      omega
    · refine .inr ⟨?_, summer, has, contains, winter summer has⟩
      rw [shown, late]
      unfold hourMicros minuteMicros at *
      omega
  · left
    have same : hours * hourMicros - zone.minutesAt summery * minuteMicros = summery := by
      rw [forward, summery_eq]
    rw [same, shown, forward, ← summery_eq, Int.sub_add_cancel]

/-- The hour that the clock skips is not the last one of a day. -/
theorem skipped_hour {summer : SummerTime} (has : zone.summer? = some summer) {hours : Int}
    (contains : summer.contains (zone.instantOf (hours * hourMicros)) = true)
    (before : summer.contains (zone.instantOf (hours * hourMicros) - hourMicros) = false) :
    hours % 24 ≠ 23 := by
  obtain ⟨standard, whole⟩ := whole_of_summer has
  have instant : ∃ count, zone.instantOf (hours * hourMicros) = count * hourMicros ∧
      (count = hours - standard ∨ count = hours - standard - 1) := by
    unfold instantOf
    rcases minutesAt_cases zone (hours * hourMicros - (zone.standardMinutes + 60) * minuteMicros)
      with ⟨minutes, _⟩ | ⟨minutes, _⟩
    · refine ⟨hours - standard, ?_, .inl rfl⟩
      rw [minutesOfWall, minutes]
      unfold hourMicros minuteMicros
      omega
    · refine ⟨hours - standard - 1, ?_, .inr rfl⟩
      rw [minutesOfWall, minutes]
      unfold hourMicros minuteMicros
      omega
  obtain ⟨count, at', near⟩ := instant
  rw [at'] at contains before
  obtain ⟨day, begins⟩ := summer.begins contains before
  unfold hourMicros dayMicros at begins
  cases zone with
  | sofia =>
    cases has
    change (120 : Int) = _ at whole
    dsimp only at begins
    omega
  | newYork =>
    cases has
    change (-300 : Int) = _ at whole
    dsimp only at begins
    omega
  | _ => cases has

end Zone

end Herald
