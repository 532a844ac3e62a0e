import Mathlib.Data.Int.Order.Basic
import Herald.Proofs.NumberTexts

/-! # Dates and what follows them

A text that begins with a full date is read as that date, whatever stands behind it. Two readers
are tried: the first one takes the whole text as a date and a time, the second one only its first
ten characters. Both find the date in those ten characters, so it does not matter which of them can
read the text. That the year, the month and the day of the month which are written name the date
follows from the calendar: years follow each other without a gap, and so do the months of a year.
The average length of a year gives a guess at the year that is right or off by one.
-/

namespace Herald

namespace Date

/-! ## Years -/

/-- The length of a year. -/
def yearLength (year : ℕ) : ℕ := if isLeapYear year then 366 else 365

theorem isLeapYear_iff {year : ℕ} :
    isLeapYear year = true ↔ year % 4 = 0 ∧ (year % 100 ≠ 0 ∨ year % 400 = 0) := by
  simp [isLeapYear]

theorem daysBeforeYear_after (years : ℕ) :
    daysBeforeYear (years + 1) = years * 365 + years / 4 - years / 100 + years / 400 :=
  rfl

theorem daysBeforeYear_succ {year : ℕ} (positive : 1 ≤ year) :
    daysBeforeYear (year + 1) = daysBeforeYear year + yearLength year := by
  obtain ⟨years, rfl⟩ : ∃ years, year = years + 1 := ⟨year - 1, by omega⟩
  have few : years / 100 ≤ years / 4 := Nat.div_le_div_left (by decide) (by decide)
  rw [daysBeforeYear_after, daysBeforeYear_after, yearLength, Nat.succ_div, Nat.succ_div,
    Nat.succ_div]
  simp only [Nat.dvd_iff_mod_eq_zero]
  generalize years / 4 = fours at few ⊢
  generalize years / 100 = hundreds at few ⊢
  by_cases leap : isLeapYear (years + 1) = true
  · rw [if_pos leap]
    obtain ⟨fourth, often | rare⟩ := isLeapYear_iff.mp leap
    · rw [if_pos fourth, if_neg often, if_neg (by omega)]
      omega
    · rw [if_pos fourth, if_pos rare, if_pos (by omega)]
      omega
  · rw [if_neg leap]
    rcases not_and_or.mp (mt isLeapYear_iff.mpr leap) with other | century
    · rw [if_neg other, if_neg (by omega), if_neg (by omega)]
      omega
    · obtain ⟨hundredth, odd⟩ := not_or.mp century
      rw [if_neg odd, if_pos (by omega), if_pos (not_not.mp hundredth)]
      omega

/-- A year begins within two days of where it would if all years were of average length. -/
theorem daysBeforeYear_near (years : ℕ) :
    400 * daysBeforeYear (years + 1) ≤ 146097 * years + 396 ∧
      146097 * years ≤ 400 * daysBeforeYear (years + 1) + 699 := by
  rw [daysBeforeYear_after]
  omega

/-- The year of a day is the one that it lies in. -/
theorem yearOfDay_spec {day : ℕ} (positive : 1 ≤ day) :
    1 ≤ yearOfDay day ∧ daysBeforeYear (yearOfDay day) < day ∧
      day ≤ daysBeforeYear (yearOfDay day + 1) := by
  have below : day * 400 / 146097 * 146097 ≤ day * 400 := Nat.div_mul_le_self _ _
  have above : day * 400 < (day * 400 / 146097 + 1) * 146097 := by omega
  unfold yearOfDay
  generalize day * 400 / 146097 = years at below above
  dsimp only
  split
  · rename_i late
    split
    · rename_i later
      have near := daysBeforeYear_near (years + 1 + 1)
      exact ⟨by omega, later, by omega⟩
    · rename_i inside
      exact ⟨by omega, late, Nat.le_of_not_lt inside⟩
  · rename_i early
    rw [Nat.add_sub_cancel]
    -- The guess is one too large, so it is not the first year.
    cases years with
    | zero => exact absurd positive (by simpa [daysBeforeYear] using early)
    | succ years =>
      have near := daysBeforeYear_near years
      exact ⟨by omega, by omega, Nat.le_of_not_lt early⟩

/-! ## Months -/

theorem sum_monthLengths (year : ℕ) : (monthLengths year).sum = yearLength year := by
  unfold monthLengths yearLength
  split <;> rfl

/-- A day of a year lies in one of its months, behind the days of the earlier ones. -/
theorem splitDay_spec {lengths : List ℕ} {day : ℕ} (positive : 1 ≤ day)
    (within : day ≤ lengths.sum) :
    1 ≤ (splitDay day lengths).1 ∧ (splitDay day lengths).1 ≤ lengths.length ∧
      1 ≤ (splitDay day lengths).2 ∧
      (splitDay day lengths).2 ≤ lengths[(splitDay day lengths).1 - 1]?.getD 0 ∧
      (lengths.take ((splitDay day lengths).1 - 1)).sum + (splitDay day lengths).2 = day := by
  induction lengths generalizing day with
  | nil =>
    rw [List.sum_nil] at within
    omega
  | cons length rest ih =>
    rw [List.sum_cons] at within
    unfold splitDay
    split
    · rename_i first
      simpa using ⟨positive, first⟩
    · rename_i later
      have positive : 1 ≤ day - length := by omega
      have within : day - length ≤ rest.sum := by omega
      obtain ⟨month, months, one, inside, same⟩ := ih positive within
      obtain ⟨index, next⟩ : ∃ index, (splitDay (day - length) rest).1 = index + 1 :=
        ⟨_, (Nat.sub_add_cancel month).symm⟩
      simp only [next, Nat.add_sub_cancel] at inside same months ⊢
      refine ⟨by omega, ?_, one, ?_, ?_⟩
      · rw [List.length_cons]
        omega
      · rwa [List.getElem?_cons_succ]
      · rw [List.take_succ_cons, List.sum_cons]
        omega

theorem daysBeforeMonth_eq (year month : ℕ) :
    daysBeforeMonth year month = ((monthLengths year).take (month - 1)).sum :=
  List.sum_eq_foldl_nat.symm

/-- No month is longer than 31 days. -/
theorem daysInMonth_le (year month : ℕ) : daysInMonth year month ≤ 31 := by
  have short : ∀ length ∈ monthLengths year, length ≤ 31 := by
    unfold monthLengths
    split <;> decide
  unfold daysInMonth
  cases found : (monthLengths year)[month - 1]? with
  | none => exact Nat.zero_le 31
  | some length => exact short length (List.mem_of_getElem? found)

/-! ## Dates -/

theorem ofDay?_day (date : Date) : ofDay? date.day = some date := by
  have inside : 1 ≤ (date.day : ℤ) ∧ (date.day : ℤ) ≤ lastDay :=
    ⟨by exact_mod_cast date.one_le_day, by exact_mod_cast date.day_le_last⟩
  rw [ofDay?, dif_pos inside]
  rfl

variable (date : Date)

theorem year_le : date.year ≤ 9999 := by
  obtain ⟨first, before, -⟩ := yearOfDay_spec date.one_le_day
  have last := date.day_le_last
  have near := (daysBeforeYear_near (yearOfDay date.day - 1)).2
  rw [Nat.sub_add_cancel first] at near
  unfold lastDay at last
  unfold year
  omega

/-- The month of a date is one of the twelve, and its day is one of that month. -/
theorem monthDay_spec :
    1 ≤ date.monthDay.1 ∧ date.monthDay.1 ≤ 12 ∧ 1 ≤ date.monthDay.2 ∧
      date.monthDay.2 ≤ daysInMonth date.year date.monthDay.1 ∧
      daysBeforeYear date.year + daysBeforeMonth date.year date.monthDay.1 + date.monthDay.2 =
        date.day := by
  obtain ⟨first, before, within⟩ := yearOfDay_spec date.one_le_day
  rw [daysBeforeYear_succ first] at within
  have behind : 1 ≤ date.day - daysBeforeYear date.year := Nat.sub_pos_of_lt before
  have inYear : date.day - daysBeforeYear date.year ≤ (monthLengths date.year).sum := by
    rw [sum_monthLengths, year]
    omega
  obtain ⟨month, months, day, days, same⟩ := splitDay_spec behind inYear
  refine ⟨month, months, day, days, ?_⟩
  rw [daysBeforeMonth_eq, monthDay, Nat.add_assoc, same]
  exact Nat.add_sub_of_le (Nat.le_of_lt before)

/-- The year, the month and the day of the month of a date name it. -/
theorem ofCivil?_civil : ofCivil? date.year date.monthDay.1 date.monthDay.2 = some date := by
  obtain ⟨first, -, -⟩ := yearOfDay_spec date.one_le_day
  obtain ⟨month, months, day, days, same⟩ := date.monthDay_spec
  rw [ofCivil?, if_pos ⟨first, date.year_le, month, months, day, days⟩, ← ofDay?_day]
  exact_mod_cast congrArg (fun day : ℕ => ofDay? day) same

end Date

open Text

/-! ## The ten characters -/

namespace Date

/-- A date is written as `YYYY-MM-DD`: four digits of its year, two of its month and two of its
day. -/
structure Spells (date : Date) (year month dayOfMonth : List (Fin 10)) : Prop where
  chars_eq : date.isoChars = digitChars year ++ ['-'] ++ digitChars month ++ ['-'] ++
    digitChars dayOfMonth
  civil : ofCivil? (digitsValue year) (digitsValue month) (digitsValue dayOfMonth) = some date
  year_length : year.length = 4
  month_length : month.length = 2
  day_length : dayOfMonth.length = 2

/-- A text that begins with a date. -/
theorem Spells.append_eq {date : Date} {year month dayOfMonth : List (Fin 10)}
    (spells : date.Spells year month dayOfMonth) (rest : List Char) :
    date.isoChars ++ rest = digitChars year ++ '-' :: (digitChars month ++ '-' ::
      (digitChars dayOfMonth ++ rest)) := by
  rw [spells.chars_eq]
  simp

theorem exists_spells (date : Date) :
    ∃ year month dayOfMonth, date.Spells year month dayOfMonth := by
  obtain ⟨-, months, -, days, -⟩ := date.monthDay_spec
  have years := date.year_le
  have short := daysInMonth_le date.year date.monthDay.1
  refine ⟨paddedDigits 4 date.year, paddedDigits 2 date.monthDay.1,
    paddedDigits 2 date.monthDay.2, ?_, ?_, ?_, ?_, ?_⟩
  · rw [digitChars_paddedDigits, digitChars_paddedDigits, digitChars_paddedDigits]
    rfl
  · rw [digitsValue_paddedDigits, digitsValue_paddedDigits, digitsValue_paddedDigits]
    exact date.ofCivil?_civil
  · exact length_paddedDigits (by decide) (by omega)
  · exact length_paddedDigits (by decide) (by omega)
  · exact length_paddedDigits (by decide) (by omega)

theorem length_isoChars (date : Date) : date.isoChars.length = 10 := by
  obtain ⟨year, month, dayOfMonth, spells⟩ := date.exists_spells
  simp [spells.chars_eq, digitChars, spells.year_length, spells.month_length, spells.day_length]

end Date

namespace Iso

/-- Digits are read one after the other. -/
theorem digits?_digitChars (digits : List (Fin 10)) (total : ℕ) (rest : List Char) :
    digits? digits.length total (digitChars digits ++ rest) =
      some ((digits.map Fin.val).foldl (fun total digit => 10 * total + digit) total, rest) := by
  induction digits generalizing total with
  | nil => rfl
  | cons digit digits ih =>
    rw [List.length_cons, digitChars, List.map_cons, List.cons_append, digits?,
      plainDigit?_digitChar]
    exact ih _

/-- A number of a given length is read from its digits. -/
theorem digits?_of_length {digits : List (Fin 10)} {count : ℕ} (length : digits.length = count)
    (rest : List Char) :
    digits? count 0 (digitChars digits ++ rest) = some (digitsValue digits, rest) :=
  length ▸ digits?_digitChars digits 0 rest

/-- What begins with a digit is no week. -/
theorem digitChars_ne_week {digits : List (Fin 10)} (filled : digits ≠ [])
    (rest after : List Char) :
    digitChars digits ++ rest ≠ 'W' :: after := by
  have strange : ∀ digit : Fin 10, digitChar digit.val ≠ 'W' := by decide
  cases digits with
  | nil => exact absurd rfl filled
  | cons digit digits => exact fun same => strange digit (List.cons.inj same).1

/-- A date is read from its ten characters, whatever stands behind them. -/
theorem datePrefix?_isoChars (date : Date) (size : ℕ) (rest : List Char) :
    datePrefix? size (date.isoChars ++ rest) = some date := by
  obtain ⟨year, month, dayOfMonth, spells⟩ := date.exists_spells
  have filled : month ≠ [] := List.ne_nil_of_length_eq_add_one spells.month_length
  rw [datePrefix?, spells.append_eq, digits?_of_length spells.year_length]
  simp only [Option.bind_eq_bind, Option.bind_some, List.head?_cons, beq_self_eq_true, if_true,
    List.drop_succ_cons, List.drop_zero]
  split
  · rename_i week
    exact absurd week (digitChars_ne_week filled _ _)
  · rw [digits?_of_length spells.month_length, Option.bind_some]
    change ((digits? 2 0 (digitChars dayOfMonth ++ rest)).bind fun read =>
      Date.ofCivil? (digitsValue year) (digitsValue month) read.1) = some date
    rw [digits?_of_length spells.day_length]
    exact spells.civil

/-- The date of a text that begins with a full one has ten characters. -/
theorem dateSize_isoChars (date : Date) (rest : List Char) :
    dateSize (date.isoChars ++ rest) = some 10 := by
  obtain ⟨year, month, dayOfMonth, spells⟩ := date.exists_spells
  have long : (date.isoChars ++ rest).length ≠ 7 := by
    rw [List.length_append, date.length_isoChars]
    omega
  have years : (digitChars year).length = 4 := (List.length_map _).trans spells.year_length
  have dash : (date.isoChars ++ rest)[4]? = some '-' := by
    rw [spells.append_eq, List.getElem?_append_right years.le, years]
    rfl
  have digit : (date.isoChars ++ rest)[5]? ≠ some 'W' := by
    rw [spells.append_eq, List.getElem?_append_right (by omega), years]
    intro week
    exact digitChars_ne_week (List.ne_nil_of_length_eq_add_one spells.month_length) _ _
      (List.eq_cons_of_mem_head? (List.head?_eq_getElem? ▸ week))
  rw [dateSize, if_neg long, if_pos dash, if_neg digit]

/-- The time of day does not move the date. -/
theorem date_ofDate (date : Date) {time : ℕ} (inside : time < dayMicros) :
    (Moment.ofDate date time inside).date = date := by
  have first := date.one_le_day
  have days : ((date.day - 1) * dayMicros + time) / dayMicros = date.day - 1 :=
    Nat.div_eq_of_lt_le (by omega) (by rw [Nat.succ_mul]; omega)
  rw [Moment.date, Date.mk.injEq, Moment.ofDate, days]
  exact Nat.sub_add_cancel first

theorem date_ofClock? {date : Date} {hour minute second microsecond : ℕ} {moment : Moment}
    (reads : Moment.ofClock? date hour minute second microsecond = some moment) :
    moment.date = date := by
  unfold Moment.ofClock? at reads
  split at reads
  · cases reads
    exact date_ofDate date _
  · cases reads

/-- If the whole of a text that begins with a date can be read, then as a moment of that date. -/
theorem date_of_moment? {date : Date} {rest : List Char} {reading : Reading}
    (reads : moment? (date.isoChars ++ rest) = some reading) : reading.moment.date = date := by
  rw [moment?, dateSize_isoChars] at reads
  simp only [Option.bind_eq_bind, Option.bind_some, datePrefix?_isoChars] at reads
  split at reads
  · cases reads
    exact date_ofDate date (by decide)
  · obtain ⟨clock, -, reads⟩ := Option.bind_eq_some_iff.mp reads
    obtain ⟨offset, -, reads⟩ := Option.bind_eq_some_iff.mp reads
    split at reads
    · cases reads
    · obtain ⟨moment, exists_, same⟩ := Option.bind_eq_some_iff.mp reads
      cases same
      exact date_ofClock? exists_

/-- A date is written in plain characters. -/
theorem isoChars_subset (date : Date) : date.isoChars ⊆ plainChars := by
  obtain ⟨year, month, dayOfMonth, spells⟩ := date.exists_spells
  have dash : ['-'] ⊆ plainChars := by decide
  rw [spells.chars_eq]
  simp only [List.append_subset]
  exact ⟨⟨⟨⟨digitChars_subset year, dash⟩, digitChars_subset month⟩, dash⟩,
    digitChars_subset dayOfMonth⟩

/-- A plain character fills one byte and is no mark of an offset. -/
theorem plainChars_ascii : ∀ c ∈ plainChars, byteSize c = 1 ∧ (c == 'Z') = false := by
  have ascii : plainChars.all (fun c => byteSize c == 1 && !(c == 'Z')) = true := by decide
  simpa only [List.all_eq_true, Bool.and_eq_true, Bool.not_eq_true', beq_iff_eq] using ascii

/-- The first ten characters of a text that begins with a date are read as that date. -/
theorem leadingDate?_isoChars (date : Date) (rest : List Char) :
    leadingDate? (date.isoChars ++ rest) = some date := by
  have first : (date.isoChars ++ rest).take 10 = date.isoChars :=
    List.take_left' date.length_isoChars
  have single : date.isoChars.map byteSize = List.replicate 10 1 :=
    List.eq_replicate_iff.mpr ⟨(List.length_map _).trans date.length_isoChars,
      List.forall_mem_map.mpr fun c among => (plainChars_ascii c (isoChars_subset date among)).1⟩
  have bytes : (date.isoChars.map byteSize).foldl (· + ·) 0 = 10 := by rw [single]; rfl
  rw [leadingDate?, first, bytes, if_pos (.inr (.inr rfl)), ← List.append_nil date.isoChars]
  exact datePrefix?_isoChars date 10 []

/-! ## What stands around it -/

/-- Trimming a text that begins with filled characters takes away nothing but its end. -/
theorem exists_trim_append {chars : List Char} (some : chars ≠ [])
    (filled : ∀ c ∈ chars, isBlank c = false) (rest : List Char) :
    ∃ after, trim (chars ++ rest) = chars ++ after := by
  have front : (chars ++ rest).dropWhile isBlank = chars ++ rest := by
    rw [List.dropWhile_append, dropWhile_of_filled filled, if_neg (by simpa using some)]
  rw [trim, trimAll, front, List.reverse_append, List.dropWhile_append]
  split
  · refine ⟨[], ?_⟩
    rw [dropWhile_of_filled (reverse_filled filled), List.reverse_reverse, List.append_nil]
  · exact ⟨_, by rw [List.reverse_append, List.reverse_reverse]⟩

/-- Offsets are expanded behind a date only. -/
theorem expandZulu_isoChars (date : Date) (rest : List Char) :
    expandZulu (date.isoChars ++ rest) = date.isoChars ++ expandZulu rest := by
  have stays : expandZulu date.isoChars = date.isoChars := by
    rw [expandZulu, List.flatMap_congr fun c among =>
      if_neg (Bool.eq_false_iff.mp (plainChars_ascii c (isoChars_subset date among)).2)]
    exact List.flatMap_singleton' _
  rw [expandZulu, List.flatMap_append]
  exact congrArg (· ++ expandZulu rest) stays

/-- A text that begins with a full date is read as that date. -/
theorem date?_iso (date : Date) (rest : String) : date? (date.iso ++ rest) = some date := by
  have some : date.isoChars ≠ [] := List.ne_nil_of_length_eq_add_one date.length_isoChars
  obtain ⟨after, trimmed⟩ := exists_trim_append some
    (fun c among => (plainChars_stay c (isoChars_subset date among)).1) rest.toList
  rw [date?, String.toList_append, Date.iso, String.toList_ofList, trimmed, expandZulu_isoChars]
  split
  · rename_i reading reads
    exact congrArg Option.some (date_of_moment? reads)
  · exact leadingDate?_isoChars date after

end Iso

/-- What follows a date does not count. A text that begins with a date in the form `YYYY-MM-DD` is
read as that date, whatever stands behind it; so the text of a date is read as the date, and the
text of a moment as the date of the moment. -/
theorem time_part_ignored :
    (∀ date : Date, (∃ year month dayOfMonth, date.Spells year month dayOfMonth) ∧
      ∀ rest : String, (Value.text (date.iso ++ rest)).date? = some date) ∧
    (∀ date : Date, (Value.text (Value.shown (.date date))).date? = some date) ∧
    ∀ moment : Moment, (Value.text (Value.shown (.moment moment))).date? = some moment.date := by
  refine ⟨fun date => ⟨date.exists_spells, Iso.date?_iso date⟩, fun date => ?_,
    fun moment => ?_⟩
  · have read := Iso.date?_iso date ""
    rwa [String.append_empty] at read
  · have text : moment.spaced = moment.date.iso ++ String.ofList (' ' :: moment.clockChars) := by
      rw [Moment.spaced, Moment.isoChars, Date.iso, List.append_assoc, String.ofList_append]
      rfl
    rw [Value.date?, Value.shown, text, Iso.date?_iso]

end Herald
