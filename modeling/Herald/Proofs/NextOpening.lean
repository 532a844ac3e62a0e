import Herald.Proofs.Openings
import Herald.Proofs.Report

/-! # The first moment at which a window is open

A campaign is submitted with a run window or without one. For every such window, and from any moment
with some room in the calendar around it, there is a next opening, and it is the first moment at
which the window is open.
-/

namespace Herald

variable {zone : Zone}

/-! ## Windows of submitted campaigns -/

namespace Checked

variable {α : Type}

/-- A form that is held to a rule keeps it. -/
theorem holding_valid {rule : α → Option String} {checked : Checked α} {value : α}
    (valid : checked.holding rule = .valid value) : checked = .valid value ∧ rule value = none := by
  obtain ⟨found, checked', kept⟩ := andThen_valid valid
  split at kept
  · rename_i fine
    cases kept
    exact ⟨checked', fine⟩
  · cases kept

end Checked

namespace Form

theorem integerWithin_valid {least most number : Int} {value : Value}
    (valid : integerWithin (some least) (some most) value = .valid number) :
    least ≤ number ∧ number ≤ most := by
  obtain ⟨found, -, kept⟩ := Checked.andThen_valid valid
  simp only [Option.any_some, decide_eq_true_eq] at kept
  split at kept
  · cases kept
  split at kept
  · cases kept
  · cases kept
    omega

theorem integerWithin_int {least most number : Int} (within : least ≤ number ∧ number ≤ most) :
    integerWithin (some least) (some most) (.int number) = .valid number := by
  change (if decide (most < number) then Checked.complain .notAtMost
    else if decide (number < least) then Checked.complain .notAtLeast else .valid number) = _
  rw [if_neg (by simpa using within.2), if_neg (by simpa using within.1)]

end Form

namespace RunWindow

variable {window : RunWindow} {base next : Moment}

/-- A window that some campaign can be submitted with. -/
def IsSubmittable (window : RunWindow) : Prop :=
  ∃ fields draft, Draft.ofForm fields = .valid draft ∧ draft.window = window

/-- Two hours of a window, the first of them one of a day and the last one perhaps its end. -/
def Spans (first last : Int) : Prop := 0 ≤ first ∧ first ≤ 23 ∧ 0 ≤ last ∧ last ≤ 24

theorem readWindow_valid {fields : Fields} (valid : Draft.readWindow fields = .valid window) :
    (∀ start, window.start = some start → ∃ first, start = .int first ∧ 0 ≤ first ∧ first ≤ 23) ∧
      ∀ finish, window.finish = some finish →
        ∃ last, finish = .int last ∧ 0 ≤ last ∧ last ≤ 24 := by
  obtain ⟨withStart, finish, started, finishes, rfl⟩ := Checked.seq_valid valid
  obtain ⟨start, starts, rfl⟩ := Checked.map_valid started
  constructor
  · intro first eq
    obtain ⟨hour, rfl, rfl⟩ := Option.map_eq_some_iff.mp eq
    obtain ⟨value, read⟩ := Form.nullable_some starts
    exact ⟨hour, rfl, Form.integerWithin_valid read⟩
  · intro last eq
    obtain ⟨hour, rfl, rfl⟩ := Option.map_eq_some_iff.mp eq
    obtain ⟨value, read⟩ := Form.nullable_some finishes
    exact ⟨hour, rfl, Form.integerWithin_valid read⟩

/-- A draft has the window that its form was read to have. -/
theorem readWindow_ofForm {fields : Fields} {draft : Draft}
    (valid : Draft.ofForm fields = .valid draft) :
    Draft.readWindow fields = .valid draft.window ∧ draft.windowRule = none := by
  obtain ⟨ruled, pairs⟩ := Checked.holding_valid valid
  obtain ⟨read, -⟩ := Checked.holding_valid ruled
  obtain ⟨withAuthor, _, authored, _, rfl⟩ := Checked.seq_valid read
  obtain ⟨withTest, _, tested, _, rfl⟩ := Checked.seq_valid authored
  obtain ⟨withEnd, _, ended, _, rfl⟩ := Checked.seq_valid tested
  obtain ⟨withWindow, window, windowed, reads, rfl⟩ := Checked.seq_valid ended
  obtain ⟨withDays, _, delayed, _, rfl⟩ := Checked.seq_valid windowed
  obtain ⟨withMinutes, _, checked, _, rfl⟩ := Checked.seq_valid delayed
  obtain ⟨withSchedule, _, scheduled, _, rfl⟩ := Checked.seq_valid checked
  obtain ⟨withFilter, _, filtered, _, rfl⟩ := Checked.seq_valid scheduled
  obtain ⟨withContent, _, told, _, rfl⟩ := Checked.seq_valid filtered
  obtain ⟨withRecurrence, _, recurs, _, rfl⟩ := Checked.seq_valid told
  obtain ⟨withReach, _, reaches, _, rfl⟩ := Checked.seq_valid recurs
  obtain ⟨withTarget, _, aimed, _, rfl⟩ := Checked.seq_valid reaches
  obtain ⟨_, _, rfl⟩ := Checked.map_valid aimed
  exact ⟨reads, pairs⟩

/-- The form of a campaign with hours. -/
def form (first last : Int) : Fields :=
  [("name", .text "n"), ("message_template", .text "t"), ("sender", .text "s"),
    ("run_start_hour", .int first), ("run_end_hour", .int last)]

theorem readWindow_form {first last : Int} (spans : Spans first last) :
    Draft.readWindow (form first last) = .valid ⟨some (.int first), some (.int last)⟩ := by
  obtain ⟨least, most, least', most'⟩ := spans
  change (_ <$> ((Form.integerWithin _ _ (.int first)).map some).under _) <*>
    ((Form.integerWithin _ _ (.int last)).map some).under _ = _
  rw [Form.integerWithin_int ⟨least, most⟩, Form.integerWithin_int ⟨least', most'⟩]
  rfl

/-- A campaign can be submitted without hours, or with two that a day has. -/
theorem isSubmittable_iff : window.IsSubmittable ↔ window = ⟨none, none⟩ ∨
    ∃ first last, Spans first last ∧ window = ⟨some (.int first), some (.int last)⟩ := by
  constructor
  · rintro ⟨fields, draft, valid, same⟩
    obtain ⟨read, pairs⟩ := readWindow_ofForm valid
    unfold Draft.windowRule at pairs
    rw [same] at read pairs
    obtain ⟨starts, finishes⟩ := readWindow_valid read
    obtain ⟨start, finish⟩ := window
    cases start with
    | none =>
      cases finish with
      | none => exact .inl rfl
      | some finish => cases pairs
    | some start =>
      cases finish with
      | none => cases pairs
      | some finish =>
        obtain ⟨first, rfl, least, most⟩ := starts start rfl
        obtain ⟨last, rfl, least', most'⟩ := finishes finish rfl
        exact .inr ⟨first, last, ⟨least, most, least', most'⟩, rfl⟩
  · rintro (rfl | ⟨first, last, spans, rfl⟩)
    · exact ⟨[("name", .text "n"), ("message_template", .text "t"), ("sender", .text "s")], _, rfl,
        rfl⟩
    · have valid : ∃ draft, Draft.ofForm (form first last) = .valid draft ∧
          draft.window = ⟨some (.int first), some (.int last)⟩ := by
        unfold Draft.ofForm
        rw [readWindow_form spans]
        exact ⟨_, rfl, rfl⟩
      obtain ⟨draft, valid, same⟩ := valid
      exact ⟨form first last, draft, valid, same⟩

/-- Hours of a day are whole ones. -/
theorem IsSubmittable.isWhole (submittable : window.IsSubmittable) : window.IsWhole := by
  rcases isSubmittable_iff.mp submittable with rfl | ⟨first, last, -, rfl⟩
  · exact ⟨nofun, nofun⟩
  · exact ⟨fun _ same => ⟨first, (Option.some.inj same).symm⟩,
      fun _ same => ⟨last, (Option.some.inj same).symm⟩⟩

/-- A window that can be submitted and is not always open starts at an hour of the day. -/
theorem IsSubmittable.hours {start finish : Cell} (submittable : window.IsSubmittable)
    (hours : window.hours? = some (start, finish)) : ∃ first last : Int,
      start = .int first ∧ finish = .int last ∧ 0 ≤ first ∧ first ≤ 23 := by
  obtain ⟨first, last, rfl, rfl, started⟩ := submittable.isWhole.hours hours
  rcases isSubmittable_iff.mp submittable with rfl | ⟨first', last', spans, rfl⟩
  · cases started
  · cases started
    exact ⟨first, last, rfl, rfl, spans.1, spans.2.1⟩

end RunWindow

/-! ## Room in the calendar -/

theorem Moment.exists_ofMicros? {micros : Int} (least : 0 ≤ micros)
    (most : micros < (lastDay * dayMicros : Nat)) :
    ∃ moment, ofMicros? micros = some moment ∧ (moment.micros : Int) = micros := by
  refine ⟨_, dif_pos ⟨least, most⟩, ?_⟩
  dsimp only
  omega

theorem Moment.exists_later (moment : Moment) {micros : Int} (least : 0 ≤ moment.micros + micros)
    (most : moment.micros + micros < (lastDay * dayMicros : Nat)) :
    ∃ after, moment.later micros = .ok after := by
  obtain ⟨after, found, -⟩ := exists_ofMicros? least most
  refine ⟨after, ?_⟩
  rw [later, addMicros?, found]

namespace Zone

/-- A clock is less than six hours from universal time. -/
theorem minutesAt_bounds (zone : Zone) (micros : Int) :
    -360 < zone.minutesAt micros ∧ zone.minutesAt micros < 360 := by
  rcases minutesAt_cases zone micros with ⟨minutes, -⟩ | ⟨minutes, summer, has, -⟩
  · rw [minutes]
    cases zone <;> decide
  · rw [minutes]
    cases zone <;> cases has <;> decide

@[simp]
theorem minutesAt_utc (micros : Int) : Zone.utc.minutesAt micros = 0 := rfl

/-- The calendar has room around a moment: the two days after it, and the day before it unless the
clock shows universal time. In every zone the moments of the years 2 to 9998 have room. -/
def HasRoom (zone : Zone) (base : Moment) : Prop :=
  (zone = .utc ∨ dayMicros ≤ base.micros) ∧ base.micros + 2 * dayMicros ≤ lastDay * dayMicros

/-- Where the calendar has room, the wall clock can be read for a day and a half. -/
theorem HasRoom.wall {base time : Moment} (room : zone.HasRoom base) (since : base ≤ time)
    (soon : time.micros < base.micros + 36 * hourMicros) :
    ∃ wall, zone.wall? time = some wall := by
  obtain ⟨before, after⟩ := room
  have since : base.micros ≤ time.micros := since
  have bounds := zone.minutesAt_bounds time.micros
  have shown : 0 ≤ zone.shown time.micros ∧
      zone.shown time.micros < (lastDay * dayMicros : Nat) := by
    unfold shown hourMicros minuteMicros dayMicros at *
    rcases before with rfl | before
    · rw [minutesAt_utc]
      omega
    · omega
  obtain ⟨wall, found, -⟩ := Moment.exists_ofMicros? shown.1 shown.2
  exact ⟨wall, found⟩

/-- The instant of a wall time that comes within a day. -/
theorem HasRoom.instant {base : Moment} (room : zone.HasRoom base) (opening : Moment)
    (later : zone.shown base.micros < opening.micros)
    (soon : opening.micros ≤ zone.shown base.micros + dayMicros) :
    ∃ next, zone.instant? opening = some next ∧ next.micros < base.micros + 36 * hourMicros := by
  obtain ⟨before, after⟩ := room
  have bounds := zone.minutesAt_bounds base.micros
  have bounds' :=
    zone.minutesAt_bounds (opening.micros - (zone.standardMinutes + 60) * minuteMicros)
  have inside : 0 ≤ zone.instantOf opening.micros ∧
      zone.instantOf opening.micros < (lastDay * dayMicros : Nat) ∧
        zone.instantOf opening.micros < base.micros + 36 * hourMicros := by
    unfold instantOf minutesOfWall shown hourMicros minuteMicros dayMicros at *
    rcases before with rfl | before
    · simp only [minutesAt_utc] at *
      omega
    · omega
  obtain ⟨next, found, same⟩ := Moment.exists_ofMicros? inside.1 inside.2.1
  refine ⟨next, ?_, ?_⟩
  · rw [instant?_eq, found]
  · omega

end Zone

/-! ## The next opening -/

namespace RunWindow

variable {window : RunWindow} {base next : Moment}

/-- Where another day is left, a window has a next first hour. -/
theorem exists_opening {first : Int} (wall : Moment) (hour : 0 ≤ first ∧ first ≤ 23)
    (room : wall.micros + dayMicros < lastDay * dayMicros) :
    ∃ opening, RunWindow.opening (.int first) wall = .ok opening := by
  have word : isWord first = true := by
    unfold isWord largestWord
    simp only [decide_eq_true_eq]
    omega
  obtain ⟨start, clock⟩ : ∃ start, Moment.ofClock? wall.date first.toNat 0 0 0 = some start :=
    ⟨_, dif_pos (by omega)⟩
  simp only [RunWindow.opening, openingAt, word, Bool.not_true, Bool.false_eq_true, if_false, clock]
  rw [if_neg (by omega)]
  split
  · exact ⟨start, rfl⟩
  · have micros := (Moment.micros_of_ofClock? clock).2
    have hour := wall.hour_eq
    simp only [Moment.date, Nat.add_sub_cancel] at micros
    have later' : (start.micros + dayMicros : Int) < (lastDay * dayMicros : Nat) := by
      unfold dayMicros hourMicros at *
      omega
    obtain ⟨opening, later⟩ := Moment.exists_later start (by omega) later'
    rw [later]
    exact ⟨opening, rfl⟩

/-- From a moment with room around it a window that can be submitted opens again, within a day and a
half. -/
theorem exists_nextOpen (submittable : window.IsSubmittable) (room : zone.HasRoom base) :
    ∃ next, window.nextOpen zone base = .ok next ∧
      next.micros < base.micros + 36 * hourMicros := by
  have self : (base.micros : Int) < base.micros + 36 * hourMicros := by
    unfold hourMicros
    omega
  obtain ⟨wall, shown⟩ := room.wall (Nat.le_refl _) self
  unfold nextOpen
  cases hours : window.hours? with
  | none => exact ⟨base, rfl, self⟩
  | some both =>
    obtain ⟨start, finish⟩ := both
    obtain ⟨first, last, rfl, rfl, hour⟩ := submittable.hours hours
    obtain ⟨told, includes⟩ : ∃ told, includes (.int first) (.int last) wall.hour = .ok told :=
      ⟨_, includes_int first last wall.hour⟩
    simp only [RunWindow.wall, shown, includes, bind, Except.bind]
    cases told with
    | true => exact ⟨base, rfl, self⟩
    | false =>
      have shown := Moment.micros_of_ofMicros? (Zone.wall?_eq base ▸ shown)
      have bounds := zone.minutesAt_bounds base.micros
      obtain ⟨opening, starts⟩ := exists_opening wall hour (by
        have after := room.2
        unfold Zone.shown minuteMicros dayMicros at *
        omega)
      obtain ⟨hours, -, micros, later, within⟩ := opening_spec starts
      obtain ⟨next, instant, soon⟩ := room.instant opening
        (by unfold hourMicros at *; omega)
        (by unfold hourMicros dayMicros at *; omega)
      simp only [starts, instant]
      exact ⟨next, rfl, soon⟩

/-- From any moment there is a first one at which the window is open: none before it is and, where
the wall clock shows the first hour of the window on that day, it is. It is the moment itself
exactly if the window is open then. -/
theorem nextOpen_least (submittable : window.IsSubmittable) (room : zone.HasRoom base) :
    ∃ next, window.nextOpen zone base = .ok next ∧ base ≤ next ∧
      (∀ time : Moment, base ≤ time → time < next → window.isOpenAt zone time = .ok false) ∧
      (window.StartsOn zone next → window.isOpenAt zone next = .ok true) ∧
      (next = base ↔ window.isOpenAt zone base = .ok true) := by
  obtain ⟨next, found, soon⟩ := exists_nextOpen submittable room
  have first := nextOpen_opensFirst submittable.isWhole found
  refine ⟨next, found, first.later, ?_, fun starts => first.opens (.inr starts), ?_, ?_⟩
  · intro time since early
    have reached : (time.micros : Int) < base.micros + 36 * hourMicros :=
      Int.lt_trans (Int.ofNat_lt.mpr early) soon
    obtain ⟨wall, shown⟩ := room.wall since reached
    obtain ⟨isOpen, told⟩ := isOpenAt_ok submittable.isWhole (by rw [shown]; rfl)
    cases isOpen with
    | true => exact absurd told (first.closed time since early)
    | false => exact told
  · intro same
    by_contra closed
    exact absurd (base_lt_nextOpen found closed) (same ▸ Nat.lt_irrefl _)
  · intro opens
    rw [nextOpen_of_isOpenAt opens] at found
    exact (Except.ok.inj found).symm

end RunWindow

namespace Sample

/-- A window that wraps midnight. -/
def nightly : RunWindow := ⟨some (.int 22), some (.int 6)⟩

/-- Noon of a day in March of 2026, in universal time. -/
def midday : Moment := ⟨63909000000000000, by decide⟩

/-- The moment of that day at which it is ten in the evening in Kathmandu. -/
def nightfall : Moment := ⟨63909015300000000, by decide⟩

/-- What the clock shows there. -/
def ten : Moment := ⟨63909036000000000, by decide⟩

end Sample

/-- In Kathmandu a window that is to open at ten does so four and a quarter hours past noon. -/
theorem sample_nextOpen_least :
    (Sample.nightly.IsSubmittable ∧ Zone.kathmandu.HasRoom Sample.midday) ∧
      Sample.nightly.nextOpen .kathmandu Sample.midday = .ok Sample.nightfall ∧
      (∀ time : Moment, Sample.midday ≤ time → time < Sample.nightfall →
        Sample.nightly.isOpenAt .kathmandu time = .ok false) ∧
      Sample.nightly.isOpenAt .kathmandu Sample.nightfall = .ok true := by
  have submittable : Sample.nightly.IsSubmittable :=
    RunWindow.isSubmittable_iff.mpr
      (.inr ⟨22, 6, ⟨by decide, by decide, by decide, by decide⟩, rfl⟩)
  have room : Zone.kathmandu.HasRoom Sample.midday := by
    unfold Zone.HasRoom
    decide
  have nightfall : Sample.nightly.nextOpen .kathmandu Sample.midday = .ok Sample.nightfall :=
    ok_of_toOption (by decide +kernel)
  obtain ⟨next, found, -, closed, opens, -⟩ := RunWindow.nextOpen_least submittable room
  rw [nightfall] at found
  cases found
  refine ⟨⟨submittable, room⟩, nightfall, closed, opens fun first same => ?_⟩
  have shown : Zone.kathmandu.wall? Sample.nightfall = some Sample.ten := by decide +kernel
  cases same
  exact ⟨Sample.nightfall, Sample.ten, Sample.ten, shown, shown, rfl, by decide⟩

end Herald
