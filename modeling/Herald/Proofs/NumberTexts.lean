import Herald.Proofs.Comparison

/-! # Numbers and their texts

The text of a decimal is a numeral: its digits with a point behind some of them, zeros in front
where the point stands before the first one, and an exponent of a single digit before the point
where the number is large or small. Each of these layouts has the digits of the coefficient and the
power of ten of the last one, so the text is read as the very decimal that was written. The digits
of a number, perhaps with zeros in front of them, write that number, which dates need as well.
-/

namespace Herald

open Number Text

/-! ## Digits of a number -/

/-- The digits of a number. -/
def digitsOf (number : ℕ) : List (Fin 10) :=
  if number < 10 then [Fin.ofNat 10 number]
  else digitsOf (number / 10) ++ [Fin.ofNat 10 number]
termination_by number
decreasing_by omega

theorem digitChar_eq : ∀ digit : Fin 10, Nat.digitChar digit.val = digitChar digit.val := by
  decide

theorem digitChars_digitsOf (number : ℕ) : digitChars (digitsOf number) = natText number := by
  have last : ∀ number, digitChars [Fin.ofNat 10 number] = [(number % 10).digitChar] :=
    fun number => congrArg (· :: []) (digitChar_eq (Fin.ofNat 10 number)).symm
  induction number using digitsOf.induct with
  | case1 number small =>
    rw [digitsOf, if_pos small, last, natText, Nat.toDigits_of_lt_base small,
      Nat.mod_eq_of_lt small]
  | case2 number large ih =>
    rw [digitsOf, if_neg large, digitChars_append, ih, last, natText, natText,
      Nat.toDigits_of_base_le (by decide) (Nat.le_of_not_lt large)]

theorem digitsValue_snoc (digits : List (Fin 10)) (digit : Fin 10) :
    digitsValue (digits ++ [digit]) = 10 * digitsValue digits + digit.val := by
  rw [digitsValue, digitsValue, ofDigits, ofDigits, List.map_append, List.foldl_append]
  rfl

theorem digitsValue_digitsOf (number : ℕ) : digitsValue (digitsOf number) = number := by
  induction number using digitsOf.induct with
  | case1 number small =>
    rw [digitsOf, if_pos small, ← List.nil_append [_], digitsValue_snoc, Fin.val_ofNat,
      Nat.mod_eq_of_lt small]
    exact Nat.zero_add number
  | case2 number large ih =>
    rw [digitsOf, if_neg large, digitsValue_snoc, ih, Fin.val_ofNat]
    exact Nat.div_add_mod number 10

theorem length_digitsOf (number : ℕ) : (digitsOf number).length = digitCount number := by
  rw [digitCount, ← natText, ← digitChars_digitsOf, digitChars, List.length_map]

theorem digitsOf_ne_nil (number : ℕ) : digitsOf number ≠ [] :=
  List.ne_nil_of_length_pos ((length_digitsOf number).symm ▸ Decimal.digitCount_pos number)

/-- Zeros in front of digits do not count. -/
theorem digitsValue_zeros (zeros : ℕ) (digits : List (Fin 10)) :
    digitsValue (List.replicate zeros 0 ++ digits) = digitsValue digits := by
  induction zeros with
  | zero => rfl
  | succ zeros ih => exact ih

/-- The digits of a number, filled with zeros on the left up to a width. -/
def paddedDigits (width number : ℕ) : List (Fin 10) :=
  List.replicate (width - (digitsOf number).length) 0 ++ digitsOf number

theorem digitChars_paddedDigits (width number : ℕ) :
    digitChars (paddedDigits width number) = paddedText width number := by
  rw [paddedDigits, digitChars_append, digitChars_digitsOf, length_digitsOf, digitChars,
    List.map_replicate]
  rfl

theorem digitsValue_paddedDigits (width number : ℕ) :
    digitsValue (paddedDigits width number) = number := by
  rw [paddedDigits, digitsValue_zeros, digitsValue_digitsOf]

theorem length_paddedDigits {width number : ℕ} (positive : 0 < width)
    (small : number < 10 ^ width) : (paddedDigits width number).length = width := by
  have fits : digitCount number ≤ width := (Decimal.digitCount_le_iff positive).mpr small
  rw [paddedDigits, List.length_append, List.length_replicate, length_digitsOf]
  omega

/-! ## Layouts -/

namespace Numeral

/-- Digits with a point behind so many of them: digits before the point and behind it. -/
def pointed (digits : List (Fin 10)) (point : ℤ) : List (Fin 10) × Option (List (Fin 10)) :=
  if point ≤ 0 then ([0], some (List.replicate point.natAbs 0 ++ digits))
  else if digits.length ≤ point.toNat then (digits, none)
  else (digits.take point.toNat, some (digits.drop point.toNat))

variable {digits : List (Fin 10)} {point : ℤ}

/-- A point adds no digits but zeros in front. -/
theorem digitsValue_pointed (digits : List (Fin 10)) (point : ℤ) :
    digitsValue ((pointed digits point).1 ++ (pointed digits point).2.getD []) =
      digitsValue digits := by
  unfold pointed
  split
  · exact digitsValue_zeros (point.natAbs + 1) digits
  · split
    · exact congrArg digitsValue (List.append_nil digits)
    · exact congrArg digitsValue (List.take_append_drop _ digits)

/-- A point that is not behind the last digit has all digits but so many behind it. -/
theorem length_pointed (inside : point ≤ digits.length) :
    (((pointed digits point).2.getD []).length : ℤ) = digits.length - point := by
  unfold pointed
  split
  · rw [Option.getD_some, List.length_append, List.length_replicate]
    omega
  · split
    · rw [Option.getD_none, List.length_nil]
      omega
    · rw [Option.getD_some, List.length_drop]
      omega

theorem pointed_filled (filled : digits ≠ []) :
    (pointed digits point).1 ++ (pointed digits point).2.getD [] ≠ [] := by
  unfold pointed
  split
  · exact List.cons_ne_nil _ _
  · split
    · rwa [Option.getD_none, List.append_nil]
    · rwa [Option.getD_some, List.take_append_drop]

/-- The exponent that is written for a power of ten: none for the power zero. -/
def powerOf (scale : ℤ) : Option Power :=
  if scale = 0 then none
  else some ⟨true, some (decide (scale < 0)), digitsOf scale.natAbs, digitsOf_ne_nil _⟩

theorem powerValue_powerOf (scale : ℤ) : powerValue (powerOf scale) = scale := by
  unfold powerOf
  split
  · rename_i zero
    exact zero.symm
  · simpa [powerValue, Power.value, digitsValue_digitsOf] using Decimal.sign_mul_natAbs scale

/-- Where the point of a finite number stands: as its exponent says, unless digits would be missing
before it or the first one would stand more than six places behind it. -/
def pointOf (digits : List (Fin 10)) (exponent : ℤ) : ℤ :=
  if exponent ≤ 0 ∧ -6 < exponent + digits.length then exponent + digits.length else 1

theorem pointOf_le (filled : digits ≠ []) (exponent : ℤ) :
    pointOf digits exponent ≤ digits.length := by
  have some := List.length_pos_iff.mpr filled
  unfold pointOf
  split
  · omega
  · omega

/-- The layout of a finite number. -/
def ofFinite (negative : Bool) (coefficient : ℕ) (exponent : ℤ) : Numeral where
  sign := if negative then some true else none
  magnitude :=
    let digits := digitsOf coefficient
    let point := pointOf digits exponent
    { whole := (pointed digits point).1
      fraction := (pointed digits point).2
      power := powerOf (exponent + digits.length - point)
      filled := pointed_filled (digitsOf_ne_nil coefficient) }

variable (negative : Bool) (coefficient : ℕ) (exponent : ℤ)

theorem coefficient_ofFinite :
    (ofFinite negative coefficient exponent).magnitude.coefficient = coefficient :=
  (digitsValue_pointed _ _).trans (digitsValue_digitsOf coefficient)

theorem exponent_ofFinite :
    (ofFinite negative coefficient exponent).magnitude.exponent = exponent := by
  have places := length_pointed (pointOf_le (digitsOf_ne_nil coefficient) exponent)
  rw [Magnitude.exponent, ofFinite, powerValue_powerOf, places]
  omega

/-- The layout of a number writes that number, digit by digit. -/
theorem decimal_ofFinite :
    (ofFinite negative coefficient exponent).decimal = .finite negative coefficient exponent := by
  rw [decimal, coefficient_ofFinite, exponent_ofFinite]
  cases negative <;> rfl

end Numeral

/-! ## Texts -/

theorem digitChars_replicate (zeros : ℕ) (digits : List (Fin 10)) :
    digitChars (List.replicate zeros 0 ++ digits) =
      List.replicate zeros '0' ++ digitChars digits := by
  rw [digitChars_append, digitChars, List.map_replicate]
  rfl

/-- A written power of ten is a mark, its sign and its digits. -/
theorem Numeral.powerChars_powerOf (scale : ℤ) :
    powerChars (powerOf scale) =
      if scale = 0 then [] else ['E', if scale < 0 then '-' else '+'] ++ natText scale.natAbs := by
  unfold powerOf
  split
  · rfl
  · rw [← digitChars_digitsOf]
    by_cases negative : scale < 0
    · simp [powerChars, Power.chars, signChars, negative]
    · simp [powerChars, Power.chars, signChars, negative]

/-- Digits with a point among them are written around it. -/
theorem Numeral.pointed_chars (digits : List (Fin 10)) (point : ℤ) :
    digitChars (pointed digits point).1 ++ fractionChars (pointed digits point).2 =
      if point ≤ 0 then ['0', '.'] ++ List.replicate point.natAbs '0' ++ digitChars digits
      else if (digitChars digits).length ≤ point.toNat then digitChars digits
      else (digitChars digits).take point.toNat ++ ['.'] ++
        (digitChars digits).drop point.toNat := by
  have length : (digitChars digits).length = digits.length := List.length_map _
  unfold pointed
  rw [length]
  split
  · rw [fractionChars, digitChars_replicate]
    rfl
  · split
    · exact List.append_nil _
    · rw [fractionChars, digitChars, digitChars, digitChars, List.map_take, List.map_drop,
        List.append_assoc]
      rfl

/-- The text of a decimal is its layout. -/
theorem text_eq (negative : Bool) (coefficient : ℕ) (exponent : ℤ) :
    Decimal.text (.finite negative coefficient exponent) =
      String.ofList (Numeral.ofFinite negative coefficient exponent).chars := by
  have length : (digitsOf coefficient).length = (natText coefficient).length := by
    rw [← digitChars_digitsOf, digitChars, List.length_map]
  have sign : signChars (if negative then some true else none) = Decimal.signText negative := by
    cases negative <;> rfl
  rw [Decimal.text, Numeral.chars, Numeral.Magnitude.chars, Numeral.ofFinite, sign,
    Numeral.pointed_chars, Numeral.powerChars_powerOf, Numeral.pointOf, length,
    digitChars_digitsOf]
  rw [Decimal.magnitudeText]
  generalize (if exponent ≤ 0 ∧ -6 < exponent + (natText coefficient).length then
    exponent + ((natText coefficient).length : ℤ) else 1) = point
  congr 2
  split
  · exact (List.append_nil _).symm
  · exact List.append_assoc _ _ _

/-! ## Reading -/

/-- The characters of numerals. -/
def plainChars : List Char :=
  ['0', '1', '2', '3', '4', '5', '6', '7', '8', '9', '-', '+', '.', 'e', 'E']

/-- A character of a numeral is neither dropped nor changed before a text is read. -/
theorem plainChars_stay : ∀ c ∈ plainChars,
    isBlank c = false ∧ (c != '_') = true ∧ Decimal.plainForm c = c := by
  have stay : plainChars.all (fun c =>
      !isBlank c && (c != '_' && decide (Decimal.plainForm c = c))) = true := by
    decide
  simpa only [List.all_eq_true, Bool.and_eq_true, Bool.not_eq_true', decide_eq_true_eq] using stay

theorem digitChar_mem_plainChars : ∀ digit : Fin 10, digitChar digit.val ∈ plainChars := by
  decide

theorem digitChars_subset (digits : List (Fin 10)) : digitChars digits ⊆ plainChars :=
  List.forall_mem_map.mpr fun digit _ => digitChar_mem_plainChars digit

theorem signChars_subset (sign : Option Bool) : signChars sign ⊆ plainChars := by
  rcases sign with _ | _ | _ <;> decide

theorem Numeral.chars_subset (numeral : Numeral) : numeral.chars ⊆ plainChars := by
  obtain ⟨sign, whole, fraction, power, filled⟩ := numeral
  have point : fractionChars fraction ⊆ plainChars := by
    cases fraction with
    | none => exact List.nil_subset _
    | some digits => exact List.cons_subset.mpr ⟨by decide, digitChars_subset digits⟩
  have mark : powerChars power ⊆ plainChars := by
    cases power with
    | none => exact List.nil_subset _
    | some power =>
      refine List.cons_subset.mpr ⟨?_, List.append_subset.mpr
        ⟨signChars_subset power.sign, digitChars_subset power.digits⟩⟩
      cases power.capital <;> decide
  exact List.append_subset.mpr ⟨signChars_subset sign, List.append_subset.mpr
    ⟨List.append_subset.mpr ⟨digitChars_subset whole, point⟩, mark⟩⟩

/-- Nothing is dropped where no blank is first. -/
theorem dropWhile_of_filled {chars : List Char} (filled : ∀ c ∈ chars, isBlank c = false) :
    chars.dropWhile isBlank = chars := by
  cases chars with
  | nil => rfl
  | cons c rest =>
    exact List.dropWhile_cons_of_neg (Bool.eq_false_iff.mp (filled c List.mem_cons_self))

theorem reverse_filled {chars : List Char} (filled : ∀ c ∈ chars, isBlank c = false) :
    ∀ c ∈ chars.reverse, isBlank c = false :=
  fun c among => filled c (List.mem_reverse.mp among)

/-- Characters of which none is blank are not trimmed. -/
theorem trim_of_filled {chars : List Char} (filled : ∀ c ∈ chars, isBlank c = false) :
    trim chars = chars := by
  rw [trim, trimAll, dropWhile_of_filled filled, dropWhile_of_filled (reverse_filled filled),
    List.reverse_reverse]

/-- A numeral whose exponent can be written is written by its characters. -/
theorem Numeral.writtenBy_chars {numeral : Numeral}
    (ranged : Decimal.InRange numeral.magnitude.coefficient numeral.magnitude.exponent) :
    numeral.WrittenBy (String.ofList numeral.chars) := by
  have stay := fun c among => plainChars_stay c (numeral.chars_subset among)
  refine ⟨?_, ranged⟩
  rw [String.toList_ofList, trim_of_filled fun c among => (stay c among).1,
    List.filter_eq_self.mpr fun c among => (stay c among).2.1]
  exact (List.map_congr_left fun c among => (stay c among).2.2).trans (List.map_id' _)

/-- A finite decimal is what its text reads as. -/
theorem ofText?_text {coefficient : ℕ} {exponent : ℤ} (negative : Bool)
    (ranged : Decimal.InRange coefficient exponent) :
    Decimal.ofText? (Decimal.text (.finite negative coefficient exponent)) =
      some (.finite negative coefficient exponent) := by
  rw [text_eq]
  refine (ofText?_iff.mpr ⟨_, Numeral.writtenBy_chars ?_, Numeral.decimal_ofFinite _ _ _⟩).1
  rwa [Numeral.coefficient_ofFinite, Numeral.exponent_ofFinite]

theorem magnitudeText_zero (number : ℕ) : Decimal.magnitudeText number 0 = natText number := by
  have some : 0 < (natText number).length := Nat.length_toDigits_pos
  have point : (if (0 : ℤ) ≤ 0 ∧ -6 < 0 + ((natText number).length : ℤ) then
      0 + ((natText number).length : ℤ) else 1) = (natText number).length := by
    rw [if_pos ⟨le_rfl, by omega⟩, zero_add]
  unfold Decimal.magnitudeText
  simp only [point]
  rw [if_pos (by omega), if_neg (by omega), if_pos (by omega)]

/-- An integer is written as the decimal that it is. -/
theorem shown_int (number : ℤ) : Value.shown (.int number) = Decimal.text (.ofInt number) := by
  rw [Value.shown, Decimal.ofInt, Decimal.text, magnitudeText_zero]
  cases number with
  | ofNat magnitude => rfl
  | negSucc magnitude =>
    rw [decide_eq_true (Int.negSucc_lt_zero magnitude)]
    rfl

/-- Integers that are not too long to be written can be read. -/
theorem inRange_of_short {number : ℕ} (short : digitCount number ≤ longestWritten) :
    Decimal.InRange number 0 := by
  have bound : (longestWritten : ℤ) ≤ Decimal.exponentLimit := by decide
  have floor : Decimal.exponentFloor ≤ 0 := by decide
  refine ⟨floor, ?_⟩
  rw [Decimal.adjusted]
  omega

/-- The mark of an exponent stands nowhere else. -/
theorem Numeral.mark_mem_chars (numeral : Numeral) :
    'E' ∈ numeral.chars ↔ 'E' ∈ powerChars numeral.magnitude.power := by
  have sign : 'E' ∉ signChars numeral.sign := by
    rcases numeral.sign with _ | _ | _ <;> decide
  have digits : 'E' ∉ digitChars numeral.magnitude.whole ++
      fractionChars numeral.magnitude.fraction :=
    fun among => absurd (not_isMark_of_mem 'E' among) (by decide)
  rw [chars, Magnitude.chars, List.mem_append, List.mem_append, or_iff_right sign,
    or_iff_right digits]

theorem Numeral.mark_mem_powerOf (scale : ℤ) : 'E' ∈ powerChars (powerOf scale) ↔ scale ≠ 0 := by
  rw [powerChars_powerOf]
  split
  · rename_i zero
    exact iff_of_false List.not_mem_nil (not_not_intro zero)
  · rename_i some
    exact iff_of_true List.mem_cons_self some

/-- An exponent is written out exactly if it is positive, or if the first digit stands more than six
places behind the point. -/
theorem mark_mem_text (negative : Bool) (coefficient : ℕ) (exponent : ℤ) :
    'E' ∈ (Decimal.text (.finite negative coefficient exponent)).toList ↔
      0 < exponent ∨ Decimal.adjusted coefficient exponent < -6 := by
  have some := Decimal.digitCount_pos coefficient
  rw [text_eq, String.toList_ofList, Numeral.mark_mem_chars, Numeral.ofFinite,
    Numeral.mark_mem_powerOf, Numeral.pointOf, Decimal.adjusted, length_digitsOf]
  split
  · omega
  · omega

/-- Numbers survive their text. A finite decimal is read from its text with the sign, the
coefficient and the exponent that it has; an exponent is written out exactly if it is positive or
the first digit stands more than six places behind the point. An integer that is not too long to be
written is read from its text as the integer that it is, and as a decimal of that number. -/
theorem numbers_survive_text :
    (∀ negative coefficient exponent, Decimal.InRange coefficient exponent →
      (Value.text (Value.shown (.decimal (.finite negative coefficient exponent)))).decimal? =
        some (.finite negative coefficient exponent) ∧
      ('E' ∈ (Value.shown (.decimal (.finite negative coefficient exponent))).toList ↔
        0 < exponent ∨ Decimal.adjusted coefficient exponent < -6)) ∧
    ∀ number : ℤ, digitCount number.natAbs ≤ longestWritten →
      (Value.text (Value.shown (.int number))).int? = .ok (some number) ∧
      ∃ decimal, (Value.text (Value.shown (.int number))).decimal? = some decimal ∧
        decimal.isFinite = true ∧ decimal.ratio = number := by
  have reads : ∀ negative coefficient exponent, Decimal.InRange coefficient exponent →
      (Value.text (Decimal.text (.finite negative coefficient exponent))).decimal? =
        some (.finite negative coefficient exponent) := by
    intro negative coefficient exponent ranged
    rw [Value.decimal?, ofText?_text negative ranged]
    rfl
  constructor
  · intro negative coefficient exponent ranged
    exact ⟨reads negative coefficient exponent ranged, mark_mem_text negative coefficient exponent⟩
  · intro number short
    have read : (Value.text (Value.shown (.int number))).decimal? = some (.ofInt number) :=
      shown_int number ▸ reads _ _ _ (inRange_of_short short)
    have denotes : (Value.text (Value.shown (.int number))).IsInteger number :=
      ⟨.ofInt number, read, rfl, Decimal.ratio_ofInt number⟩
    exact ⟨Value.isInteger_iff.mpr denotes, denotes⟩

/-- The smallest zero, with a sign, and an integer are read as they were written. -/
theorem sample_survives_text :
    Decimal.InRange 0 Decimal.exponentFloor ∧ digitCount (-1200 : ℤ).natAbs ≤ longestWritten ∧
    (Value.text "-0E-1999999999999999997").decimal? =
      some (.finite true 0 (-1999999999999999997)) ∧
    (Value.text "-1200").int? = .ok (some (-1200)) := by
  have ranged : Decimal.InRange 0 Decimal.exponentFloor := by
    rw [Decimal.InRange]
    decide +kernel
  have short : digitCount (-1200 : ℤ).natAbs ≤ longestWritten := by decide +kernel
  have smallest : Value.shown (.decimal (.finite true 0 Decimal.exponentFloor)) =
      "-0E-1999999999999999997" := by decide +kernel
  have twelve : Value.shown (.int (-1200)) = "-1200" := by decide +kernel
  obtain ⟨decimals, integers⟩ := numbers_survive_text
  refine ⟨ranged, short, ?_, ?_⟩
  · exact smallest ▸ (decimals true 0 Decimal.exponentFloor ranged).1
  · exact twelve ▸ (integers (-1200) short).1

end Herald
