import Mathlib.Data.List.TakeWhile
import Herald.Proofs.Integers

/-! # Written numbers

A number in plain characters is a numeral: a sign, digits with at most one point among them, and
perhaps an exponent behind a mark. Reading finds a finite decimal in exactly the numerals whose
exponent is in the range that can be written, and the decimal is the number that the numeral means.
-/

namespace Herald

open Number Text

/-! ## Digits -/

/-- Plain digits in a row. -/
def digitChars (digits : List (Fin 10)) : List Char := digits.map fun digit => digitChar digit.val

/-- The number that digits write. -/
def digitsValue (digits : List (Fin 10)) : ℕ := ofDigits (digits.map Fin.val)

theorem plainDigit?_digitChar : ∀ digit : Fin 10,
    plainDigit? (digitChar digit) = some digit.val := by
  decide

theorem plainDigit?_eq_some_iff {c : Char} {value : ℕ} :
    plainDigit? c = some value ↔ ∃ digit : Fin 10, digitChar digit = c ∧ digit.val = value := by
  constructor
  · intro read
    unfold plainDigit? at read
    split at read
    · rename_i plain
      obtain ⟨low, high⟩ := plain
      have zero : '0'.toNat = 48 := rfl
      have nine : '9'.toNat = 57 := rfl
      rw [zero] at low read
      rw [nine] at high
      cases read
      refine ⟨⟨c.toNat - 48, by omega⟩, ?_, rfl⟩
      have same : '0'.toNat + (c.toNat - 48) % 10 = c.toNat := by omega
      rw [digitChar, same, Char.ofNat_toNat]
    · cases read
  · rintro ⟨digit, rfl, rfl⟩
    exact plainDigit?_digitChar digit

/-- A character that stands in a numeral for no digit, or at the start of a word. -/
def numeralMarks : List Char := ['-', '+', '.', 'e', 'E', 'i', 'n', 's']

theorem digitChar_not_mem : ∀ digit : Fin 10, digitChar digit ∉ numeralMarks := by
  decide

theorem not_mem_digitChars {mark : Char} (marks : mark ∈ numeralMarks) (digits : List (Fin 10)) :
    mark ∉ digitChars digits := by
  intro among
  obtain ⟨digit, -, rfl⟩ := List.mem_map.mp among
  exact digitChar_not_mem digit marks

theorem digitValues?_eq_some_iff {chars : List Char} {values : List ℕ} :
    Decimal.digitValues? chars = some values ↔
      ∃ digits, digitChars digits = chars ∧ digits.map Fin.val = values := by
  unfold Decimal.digitValues? digitChars
  induction chars generalizing values with
  | nil =>
    rw [List.mapM_nil]
    constructor
    · rintro ⟨⟩
      exact ⟨[], rfl, rfl⟩
    · rintro ⟨digits, none, rfl⟩
      cases List.map_eq_nil_iff.mp none
      rfl
  | cons c rest ih =>
    rw [List.mapM_cons]
    simp only [Option.bind_eq_bind, Option.bind_eq_some_iff, plainDigit?_eq_some_iff, ih]
    constructor
    · rintro ⟨_, ⟨digit, rfl, rfl⟩, _, ⟨digits, rfl, rfl⟩, ⟨⟩⟩
      exact ⟨digit :: digits, rfl, rfl⟩
    · rintro ⟨digits, written, rfl⟩
      obtain ⟨digit, digits, rfl, rfl, rfl⟩ := List.map_eq_cons_iff.mp written
      exact ⟨_, ⟨digit, rfl, rfl⟩, _, ⟨digits, rfl, rfl⟩, rfl⟩

theorem digitChars_append (first second : List (Fin 10)) :
    digitChars (first ++ second) = digitChars first ++ digitChars second :=
  List.map_append

theorem natural?_eq_some_iff {chars : List Char} {number : ℕ} :
    Decimal.natural? chars = some number ↔
      ∃ digits, digits ≠ [] ∧ digitChars digits = chars ∧ digitsValue digits = number := by
  unfold Decimal.natural?
  split
  · rename_i empty
    cases List.isEmpty_iff.mp empty
    refine ⟨nofun, ?_⟩
    rintro ⟨digits, some, none, -⟩
    exact absurd (List.map_eq_nil_iff.mp none) some
  · rename_i filled
    simp only [Option.map_eq_some_iff, digitValues?_eq_some_iff]
    constructor
    · rintro ⟨_, ⟨digits, rfl, rfl⟩, rfl⟩
      refine ⟨digits, ?_, rfl, rfl⟩
      rintro rfl
      exact filled rfl
    · rintro ⟨digits, -, rfl, rfl⟩
      exact ⟨_, ⟨digits, rfl, rfl⟩, rfl⟩

/-! ## Splitting at a mark -/

/-- A list is split where a condition first fails. -/
theorem span_iff {α : Type} {p : α → Bool} {chars before after : List α} :
    (chars.takeWhile p = before ∧ chars.dropWhile p = after) ↔
      before ++ after = chars ∧ (∀ c ∈ before, p c = true) ∧ ∀ c ∈ after.head?, p c = false := by
  constructor
  · rintro ⟨rfl, rfl⟩
    refine ⟨List.takeWhile_append_dropWhile, fun c among => List.mem_takeWhile_imp among, ?_⟩
    intro c first
    have stops := List.head?_dropWhile_not p chars
    rw [Option.mem_def.mp first] at stops
    exact stops
  · rintro ⟨rfl, all, stops⟩
    rw [List.takeWhile_append_of_pos all, List.dropWhile_append_of_pos all]
    cases after with
    | nil => simp
    | cons c rest =>
      have fails : ¬ p c = true := Bool.eq_false_iff.mp (stops c rfl)
      rw [List.takeWhile_cons_of_neg fails, List.dropWhile_cons_of_neg fails, List.append_nil]
      exact ⟨rfl, rfl⟩

/-! ## Signs -/

/-- A sign that is written, a minus sign being `true`, or left out. -/
def signChars : Option Bool → List Char
  | none => []
  | some negative => [if negative then '-' else '+']

/-- Characters that do not begin with a sign. -/
def IsUnsigned (chars : List Char) : Prop := ∀ c ∈ chars.head?, c ≠ '-' ∧ c ≠ '+'

theorem isUnsigned_of_ne {chars : List Char} (minus : ∀ rest, chars = '-' :: rest → False)
    (plus : ∀ rest, chars = '+' :: rest → False) : IsUnsigned chars := by
  intro c first
  refine ⟨?_, ?_⟩
  · rintro rfl
    exact minus _ (List.eq_cons_of_mem_head? first)
  · rintro rfl
    exact plus _ (List.eq_cons_of_mem_head? first)

/-- Read what is behind a sign, which may be left out. -/
def readSigned? {α : Type} (read : Bool → List Char → Option α) : List Char → Option α
  | '-' :: rest => read true rest
  | '+' :: rest => read false rest
  | chars => read false chars

theorem readSigned?_unsigned {α : Type} (read : Bool → List Char → Option α) {chars : List Char}
    (unsigned : IsUnsigned chars) : readSigned? read chars = read false chars := by
  unfold readSigned?
  split
  · exact absurd rfl (unsigned '-' rfl).1
  · exact absurd rfl (unsigned '+' rfl).2
  · rfl

theorem readSigned?_eq_some_iff {α : Type} {read : Bool → List Char → Option α} {chars : List Char}
    {result : α} :
    readSigned? read chars = some result ↔
      ∃ sign rest, signChars sign ++ rest = chars ∧ (sign = none → IsUnsigned rest) ∧
        read (sign == some true) rest = some result := by
  constructor
  · intro reads
    unfold readSigned? at reads
    split at reads
    · exact ⟨some true, _, rfl, nofun, reads⟩
    · exact ⟨some false, _, rfl, nofun, reads⟩
    · rename_i minus plus
      exact ⟨none, chars, rfl, fun _ => isUnsigned_of_ne minus plus, reads⟩
  · rintro ⟨_ | _ | _, rest, rfl, unsigned, reads⟩
    · exact (readSigned?_unsigned read (unsigned rfl)).trans reads
    · exact reads
    · exact reads

theorem isUnsigned_digitChars (digits : List (Fin 10)) (rest : List Char)
    (unsigned : digits = [] → IsUnsigned rest) : IsUnsigned (digitChars digits ++ rest) := by
  cases digits with
  | nil => exact unsigned rfl
  | cons digit digits =>
    rintro c ⟨⟩
    have strange : ∀ mark ∈ numeralMarks, digitChar digit ≠ mark :=
      fun mark marks same => digitChar_not_mem digit (same ▸ marks)
    exact ⟨strange '-' (by decide), strange '+' (by decide)⟩

theorem exponent?_eq (chars : List Char) :
    Decimal.exponent? chars = readSigned? (fun negative digits =>
      (Decimal.natural? digits).map fun number : ℕ => Decimal.sign negative * (number : ℤ))
      chars := by
  -- Without a minus sign the number is cast and not multiplied by its sign.
  have plain : (fun number : ℕ => Decimal.sign false * (number : ℤ)) = Int.ofNat :=
    funext fun number => one_mul _
  unfold Decimal.exponent?
  split
  · rename_i digits
    rw [readSigned?]
    cases Decimal.natural? digits with
    | none => rfl
    | some number => exact congrArg some (neg_one_mul (number : ℤ)).symm
  · rw [readSigned?, plain]
  · rename_i minus plus
    rw [readSigned?_unsigned _ (isUnsigned_of_ne minus plus), plain]

/-! ## Numerals -/

/-- The exponent of a numeral: a mark, perhaps a sign, and digits. -/
structure Numeral.Power where
  capital : Bool
  sign : Option Bool
  digits : List (Fin 10)
  filled : digits ≠ []

/-- A numeral without its sign: digits before the point, digits behind it if there is a point, one
digit at least, and perhaps an exponent. -/
structure Numeral.Magnitude where
  whole : List (Fin 10)
  fraction : Option (List (Fin 10))
  power : Option Numeral.Power
  filled : whole ++ fraction.getD [] ≠ []

/-- A number as it can be written in plain characters. -/
structure Numeral where
  sign : Option Bool
  magnitude : Numeral.Magnitude

namespace Numeral

def Power.chars (power : Power) : List Char :=
  (if power.capital then 'E' else 'e') :: (signChars power.sign ++ digitChars power.digits)

def Power.value (power : Power) : ℤ :=
  Decimal.sign (power.sign == some true) * digitsValue power.digits

/-- The point and the digits behind it. -/
def fractionChars : Option (List (Fin 10)) → List Char
  | none => []
  | some digits => '.' :: digitChars digits

def powerChars (power : Option Power) : List Char := (power.map Power.chars).getD []

def powerValue (power : Option Power) : ℤ := (power.map Power.value).getD 0

namespace Magnitude

def chars (magnitude : Magnitude) : List Char :=
  digitChars magnitude.whole ++ fractionChars magnitude.fraction ++ powerChars magnitude.power

/-- All digits, as if there were no point. -/
def coefficient (magnitude : Magnitude) : ℕ :=
  digitsValue (magnitude.whole ++ magnitude.fraction.getD [])

/-- The power of ten of the last digit. -/
def exponent (magnitude : Magnitude) : ℤ :=
  powerValue magnitude.power - (magnitude.fraction.getD []).length

end Magnitude

/-- The characters of a numeral. -/
def chars (numeral : Numeral) : List Char := signChars numeral.sign ++ numeral.magnitude.chars

/-- The decimal that a numeral writes. -/
def decimal (numeral : Numeral) : Decimal :=
  .finite (numeral.sign == some true) numeral.magnitude.coefficient numeral.magnitude.exponent

end Numeral

theorem exponent?_eq_some_iff {chars : List Char} {exponent : ℤ} (capital : Bool) :
    Decimal.exponent? chars = some exponent ↔
      ∃ power : Numeral.Power, power.capital = capital ∧ power.value = exponent ∧
        signChars power.sign ++ digitChars power.digits = chars := by
  simp only [exponent?_eq, readSigned?_eq_some_iff, Option.map_eq_some_iff, natural?_eq_some_iff]
  constructor
  · rintro ⟨sign, _, rfl, -, _, ⟨digits, filled, rfl, rfl⟩, rfl⟩
    exact ⟨⟨capital, sign, digits, filled⟩, rfl, rfl, rfl⟩
  · rintro ⟨⟨_, sign, digits, filled⟩, rfl, rfl, rfl⟩
    refine ⟨sign, _, rfl, fun _ => ?_, _, ⟨digits, filled, rfl, rfl⟩, rfl⟩
    have unsigned := isUnsigned_digitChars digits [] fun none => absurd none filled
    rwa [List.append_nil] at unsigned

/-- What is behind the point of a fraction are its digits. -/
theorem fractionChars_drop (fraction : Option (List (Fin 10))) :
    (Numeral.fractionChars fraction).drop 1 = digitChars (fraction.getD []) := by
  cases fraction <;> rfl

theorem fractionChars_head (fraction : Option (List (Fin 10))) :
    ∀ c ∈ (Numeral.fractionChars fraction).head?, c = '.' := by
  rintro c first
  cases fraction with
  | none => cases first
  | some digits =>
    cases first
    rfl

/-- Digits before a point and behind it, of which there is one at least. -/
theorem mantissa?_of_split {chars before after : List Char} {coefficient places : ℕ}
    (split : chars.takeWhile (· != '.') = before ∧ chars.dropWhile (· != '.') = after) :
    Decimal.mantissa? chars = some (coefficient, places) ↔
      ∃ whole behind, whole ++ behind ≠ [] ∧ digitChars whole = before ∧
        digitChars behind = after.drop 1 ∧ digitsValue (whole ++ behind) = coefficient ∧
          behind.length = places := by
  have length : ∀ digits, (digitChars digits).length = digits.length := fun _ => List.length_map _
  rw [Decimal.mantissa?, split.1, split.2]
  constructor
  · intro reads
    split at reads
    · cases reads
    · rename_i filled
      split at reads
      · rename_i values read
        cases reads
        obtain ⟨digits, written, rfl⟩ := digitValues?_eq_some_iff.mp read
        obtain ⟨whole, behind, rfl, rfl, same⟩ := List.map_eq_append_iff.mp written
        refine ⟨whole, behind, ?_, rfl, same, rfl, same ▸ (length behind).symm⟩
        intro none
        obtain ⟨rfl, rfl⟩ := List.append_eq_nil_iff.mp none
        rw [← same] at filled
        exact filled rfl
      · cases reads
  · rintro ⟨whole, behind, filled, rfl, same, rfl, rfl⟩
    have read := digitValues?_eq_some_iff.mpr ⟨whole ++ behind, digitChars_append whole behind, rfl⟩
    have empty : ¬ ((digitChars whole).isEmpty && (digitChars behind).isEmpty) = true := by
      simpa [digitChars, List.append_eq_nil_iff] using filled
    rw [← same, if_neg empty, read, length]
    rfl

theorem mantissa?_eq_some_iff {chars : List Char} {coefficient places : ℕ} :
    Decimal.mantissa? chars = some (coefficient, places) ↔
      ∃ whole fraction, whole ++ fraction.getD [] ≠ [] ∧
        digitChars whole ++ Numeral.fractionChars fraction = chars ∧
        digitsValue (whole ++ fraction.getD []) = coefficient ∧
        (fraction.getD []).length = places := by
  constructor
  · intro reads
    have split : chars.takeWhile (· != '.') = chars.takeWhile (· != '.') ∧
      chars.dropWhile (· != '.') = chars.dropWhile (· != '.') := ⟨rfl, rfl⟩
    obtain ⟨joined, -, stops⟩ := span_iff.mp split
    obtain ⟨whole, behind, filled, before, after, rfl, rfl⟩ := (mantissa?_of_split split).mp reads
    rw [← before] at joined
    generalize chars.dropWhile (· != '.') = tail at *
    -- There is no point, or the first one, and then only digits are behind it.
    cases tail with
    | nil =>
      cases List.map_eq_nil_iff.mp after
      exact ⟨whole, none, filled, joined, rfl, rfl⟩
    | cons c rest =>
      obtain rfl : c = '.' := by simpa using stops c rfl
      refine ⟨whole, some behind, filled, ?_, rfl, rfl⟩
      rw [← joined, Numeral.fractionChars, after]
      rfl
  · rintro ⟨whole, fraction, filled, rfl, rfl, rfl⟩
    have digits : ∀ c ∈ digitChars whole, (c != '.') = true := fun c among =>
      bne_iff_ne.mpr fun same => not_mem_digitChars (by decide) whole (same ▸ among)
    have point : ∀ c ∈ (Numeral.fractionChars fraction).head?, (c != '.') = false := by
      intro c first
      rw [fractionChars_head fraction c first]
      rfl
    exact (mantissa?_of_split (span_iff.mpr ⟨rfl, digits, point⟩)).mpr
      ⟨whole, fraction.getD [], filled, rfl, (fractionChars_drop fraction).symm, rfl, rfl⟩

/-- The mark of an exponent, a small letter or a capital one. -/
def isMark (c : Char) : Bool := c == 'e' || c == 'E'

theorem isMark_eq_true_iff {c : Char} :
    isMark c = true ↔ ∃ capital : Bool, c = if capital then 'E' else 'e' := by
  simp [isMark]

theorem not_isMark_of_mem {magnitude : Numeral.Magnitude} :
    ∀ c ∈ digitChars magnitude.whole ++ Numeral.fractionChars magnitude.fraction,
      (!isMark c) = true := by
  have digits : ∀ digits : List (Fin 10), ∀ c ∈ digitChars digits, (!isMark c) = true := by
    intro digits c among
    rw [Bool.not_eq_true', ← Bool.not_eq_true, isMark_eq_true_iff]
    rintro ⟨capital, rfl⟩
    cases capital
    · exact not_mem_digitChars (by decide) digits among
    · exact not_mem_digitChars (by decide) digits among
  intro c among
  rcases List.mem_append.mp among with before | behind
  · exact digits _ c before
  · cases shape : magnitude.fraction with
    | none =>
      rw [shape] at behind
      cases behind
    | some fraction =>
      rw [shape] at behind
      rcases List.mem_cons.mp behind with rfl | behind
      · rfl
      · exact digits fraction c behind

theorem powerChars_head (power : Option Numeral.Power) :
    ∀ c ∈ (Numeral.powerChars power).head?, isMark c = true := by
  intro c first
  cases power with
  | none => cases first
  | some power =>
    cases first
    exact isMark_eq_true_iff.mpr ⟨power.capital, rfl⟩

/-- A mantissa, and behind it either nothing or a mark and an exponent. -/
theorem scientific?_eq (chars : List Char) :
    Decimal.scientific? chars =
      match Decimal.mantissa? (chars.takeWhile (!isMark ·)), chars.dropWhile (!isMark ·) with
      | some (coefficient, places), [] => some (coefficient, -(places : Int))
      | some (coefficient, places), _ :: digits =>
        (Decimal.exponent? digits).map fun exponent => (coefficient, exponent - places)
      | none, _ => none :=
  rfl

theorem scientific?_eq_some_iff {chars : List Char} {coefficient : ℕ} {exponent : ℤ} :
    Decimal.scientific? chars = some (coefficient, exponent) ↔
      ∃ magnitude : Numeral.Magnitude, magnitude.chars = chars ∧
        magnitude.coefficient = coefficient ∧ magnitude.exponent = exponent := by
  constructor
  · intro reads
    have split : chars.takeWhile (!isMark ·) = chars.takeWhile (!isMark ·) ∧
      chars.dropWhile (!isMark ·) = chars.dropWhile (!isMark ·) := ⟨rfl, rfl⟩
    obtain ⟨joined, -, stops⟩ := span_iff.mp split
    rw [scientific?_eq] at reads
    generalize chars.takeWhile (!isMark ·) = before at *
    generalize chars.dropWhile (!isMark ·) = after at *
    split at reads
    · rename_i read
      cases reads
      obtain ⟨whole, fraction, filled, rfl, rfl, rfl⟩ := mantissa?_eq_some_iff.mp read
      exact ⟨⟨whole, fraction, none, filled⟩, joined, rfl, zero_sub _⟩
    · rename_i c rest read
      obtain ⟨whole, fraction, filled, rfl, rfl, rfl⟩ := mantissa?_eq_some_iff.mp read
      obtain ⟨capital, rfl⟩ := isMark_eq_true_iff.mp (by simpa using stops c rfl)
      obtain ⟨_, behind, same⟩ := Option.map_eq_some_iff.mp reads
      cases same
      obtain ⟨power, rfl, rfl, rfl⟩ := (exponent?_eq_some_iff capital).mp behind
      exact ⟨⟨whole, fraction, some power, filled⟩, joined, rfl, rfl⟩
    · cases reads
  · rintro ⟨magnitude, rfl, rfl, rfl⟩
    have stops : ∀ c ∈ (Numeral.powerChars magnitude.power).head?, (!isMark c) = false :=
      fun c first => congrArg not (powerChars_head magnitude.power c first)
    have mantissa := mantissa?_eq_some_iff.mpr
      ⟨magnitude.whole, magnitude.fraction, magnitude.filled, rfl, rfl, rfl⟩
    obtain ⟨before, after⟩ := span_iff.mpr ⟨rfl, not_isMark_of_mem, stops⟩
    rw [scientific?_eq, Numeral.Magnitude.chars, before, after, mantissa,
      Numeral.Magnitude.exponent]
    cases magnitude.power with
    | none => simp [Numeral.powerChars, Numeral.powerValue, Numeral.Magnitude.coefficient]
    | some power =>
      have behind := (exponent?_eq_some_iff power.capital).mpr ⟨power, rfl, rfl, rfl⟩
      exact Option.map_eq_some_iff.mpr ⟨power.value, behind, rfl⟩

/-! ## Words -/

/-- A text that begins with another character than a word is not read as the word. -/
theorem afterWord?_eq_none {word : String} {first : Char} {rest chars : List Char}
    (begins : word.toList = first :: rest) (other : ∀ c ∈ chars.head?, c.toLower ≠ first) :
    Decimal.afterWord? word chars = none := by
  have length : word.length = rest.length + 1 := by
    rw [← String.length_toList, begins]
    rfl
  rw [Decimal.afterWord?, length, begins]
  cases chars with
  | nil => rfl
  | cons c chars =>
    have differs : ¬ (((c :: chars).take (rest.length + 1)).map Char.toLower ==
        first :: rest) = true := by
      rw [beq_iff_eq, List.take_succ_cons, List.map_cons, List.cons.injEq]
      exact fun same => other c rfl same.1
    rw [if_neg differs, ite_self]

theorem Numeral.Magnitude.head_plain (magnitude : Magnitude) :
    ∀ c ∈ magnitude.chars.head?, (∃ digit : Fin 10, c = digitChar digit.val) ∨ c = '.' := by
  obtain ⟨whole, fraction, power, filled⟩ := magnitude
  intro c first
  cases whole with
  | cons digit whole =>
    cases first
    exact .inl ⟨digit, rfl⟩
  | nil =>
    cases fraction with
    | none => exact absurd rfl filled
    | some digits =>
      cases first
      exact .inr rfl

/-- A numeral begins with none of the characters that stand for something else. -/
theorem Numeral.Magnitude.head_lower (magnitude : Magnitude) :
    ∀ c ∈ magnitude.chars.head?, c.toLower ∉ ['-', '+', 'i', 'n', 's'] := by
  have digits : ∀ digit : Fin 10, (digitChar digit.val).toLower ∉ ['-', '+', 'i', 'n', 's'] := by
    decide
  intro c first
  rcases magnitude.head_plain c first with ⟨digit, rfl⟩ | rfl
  · exact digits digit
  · decide

/-! ## Reading numerals -/

/-- Whether a number has an exponent that can be written. -/
def Decimal.InRange (coefficient : ℕ) (exponent : ℤ) : Prop :=
  exponentFloor ≤ exponent ∧ adjusted coefficient exponent ≤ exponentLimit

theorem ranged?_eq_some_iff {negative : Bool} {coefficient : ℕ} {exponent : ℤ} {decimal : Decimal} :
    Decimal.ranged? negative coefficient exponent = some decimal ↔
      Decimal.InRange coefficient exponent ∧ .finite negative coefficient exponent = decimal := by
  have zero : Decimal.adjusted 0 exponent = exponent := by
    rw [Decimal.adjusted, show digitCount 0 = 1 from rfl]
    omega
  unfold Decimal.ranged? Decimal.InRange
  split
  · rename_i none
    subst none
    rw [zero]
    split <;> simp_all
  · split <;> simp_all

/-- Only unsigned characters without a word are read as a finite number. -/
theorem unsigned?_eq_some_iff {negative : Bool} {chars : List Char} {decimal : Decimal} :
    (Decimal.unsigned? negative chars = some decimal ∧ decimal.isFinite = true) ↔
      ∃ magnitude : Numeral.Magnitude, magnitude.chars = chars ∧
        Decimal.InRange magnitude.coefficient magnitude.exponent ∧
          .finite negative magnitude.coefficient magnitude.exponent = decimal := by
  have finite_iff : Decimal.finite? negative chars = some decimal ↔
      ∃ magnitude : Numeral.Magnitude, magnitude.chars = chars ∧
        Decimal.InRange magnitude.coefficient magnitude.exponent ∧
          .finite negative magnitude.coefficient magnitude.exponent = decimal := by
    simp only [Decimal.finite?, Option.bind_eq_some_iff, Prod.exists, scientific?_eq_some_iff,
      ranged?_eq_some_iff]
    constructor
    · rintro ⟨_, _, ⟨magnitude, rfl, rfl, rfl⟩, ranged⟩
      exact ⟨magnitude, rfl, ranged⟩
    · rintro ⟨magnitude, rfl, ranged⟩
      exact ⟨_, _, ⟨magnitude, rfl, rfl, rfl⟩, ranged⟩
  rw [← finite_iff]
  constructor
  · rintro ⟨reads, finite⟩
    unfold Decimal.unsigned? at reads
    split at reads
    · cases reads
      cases finite
    · split at reads
      · obtain ⟨payload, -, rfl⟩ := Option.map_eq_some_iff.mp reads
        cases finite
      · obtain ⟨payload, -, rfl⟩ := Option.map_eq_some_iff.mp reads
        cases finite
      · exact reads
  · intro reads
    obtain ⟨magnitude, rfl, -, rfl⟩ := finite_iff.mp reads
    -- A numeral begins like none of the words, so all of them are passed over.
    have other : ∀ first ∈ ['-', '+', 'i', 'n', 's'],
        ∀ c ∈ magnitude.chars.head?, c.toLower ≠ first := by
      rintro first listed c head rfl
      exact magnitude.head_lower c head listed
    refine ⟨?_, rfl⟩
    rw [Decimal.unsigned?, afterWord?_eq_none (rfl : "inf".toList = _) (other 'i' (by decide)),
      afterWord?_eq_none (rfl : "infinity".toList = _) (other 'i' (by decide)),
      afterWord?_eq_none (rfl : "nan".toList = _) (other 'n' (by decide)),
      afterWord?_eq_none (rfl : "snan".toList = _) (other 's' (by decide))]
    exact reads

theorem signed?_eq (chars : List Char) :
    Decimal.signed? chars = readSigned? Decimal.unsigned? chars := by
  unfold Decimal.signed?
  split
  · rfl
  · rfl
  · rename_i minus plus
    exact (readSigned?_unsigned _ (isUnsigned_of_ne minus plus)).symm

/-- Characters are read as a finite number exactly if they are a numeral whose exponent can be
written, and the number is the one that the numeral writes. -/
theorem signed?_eq_some_iff {chars : List Char} {decimal : Decimal} :
    (Decimal.signed? chars = some decimal ∧ decimal.isFinite = true) ↔
      ∃ numeral : Numeral, numeral.chars = chars ∧
        Decimal.InRange numeral.magnitude.coefficient numeral.magnitude.exponent ∧
          numeral.decimal = decimal := by
  rw [signed?_eq, readSigned?_eq_some_iff]
  constructor
  · rintro ⟨⟨sign, rest, rfl, -, reads⟩, finite⟩
    obtain ⟨magnitude, rfl, ranged, rfl⟩ := unsigned?_eq_some_iff.mp ⟨reads, finite⟩
    exact ⟨⟨sign, magnitude⟩, rfl, ranged, rfl⟩
  · rintro ⟨⟨sign, magnitude⟩, rfl, ranged, rfl⟩
    obtain ⟨reads, finite⟩ := unsigned?_eq_some_iff.mpr ⟨magnitude, rfl, ranged, rfl⟩
    refine ⟨⟨sign, _, rfl, fun _ c first => ?_, reads⟩, finite⟩
    have lower := magnitude.head_lower c first
    refine ⟨?_, ?_⟩
    · rintro rfl
      exact lower (by decide)
    · rintro rfl
      exact lower (by decide)

end Herald
