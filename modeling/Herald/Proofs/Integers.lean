import Herald.Proofs.Cents
import Herald.Value.Reading

/-! # What reads as an integer

A value stands for an integer if it reads as a number that equals it, however that number is
written: `30`, `30.0`, `"3e1"`. Two kinds of number cannot be asked for their integer at all, and
reading fails at them instead of finding none: the infinities and the signaling not-a-number.
-/

namespace Herald

open Number

namespace Decimal

/-- The sign of a decimal as a factor. -/
def sign (negative : Bool) : ℤ := if negative then -1 else 1

theorem ratio_eq (negative : Bool) (coefficient : ℕ) (exponent : ℤ) :
    (finite negative coefficient exponent).ratio = sign negative * coefficient * 10 ^ exponent := by
  cases negative <;> simp [ratio, sign]

/-- A signed number is a multiple exactly of what it is a multiple of without its sign. -/
theorem sign_mul_eq_iff {negative : Bool} {coefficient power : ℕ} (positive : 0 < power)
    (number : ℤ) :
    sign negative * coefficient = number * power ↔
      power ∣ coefficient ∧ sign negative * (coefficient / power : ℕ) = number := by
  have nonzero : (power : ℤ) ≠ 0 := by exact_mod_cast positive.ne'
  constructor
  · intro same
    have divides : power ∣ coefficient := by
      have signed : (power : ℤ) ∣ sign negative * coefficient := ⟨number, same.trans (mul_comm _ _)⟩
      refine Int.natCast_dvd_natCast.mp ?_
      cases negative <;> simpa [sign] using signed
    refine ⟨divides, mul_right_cancel₀ nonzero ?_⟩
    rw [mul_assoc, ← Nat.cast_mul, Nat.div_mul_cancel divides, same]
  · rintro ⟨divides, rfl⟩
    rw [mul_assoc, ← Nat.cast_mul, Nat.div_mul_cancel divides]

/-- A number with no more digits than its power of ten is a multiple of it only as zero. -/
theorem not_dvd_of_digits {coefficient places : ℕ} (some : coefficient ≠ 0)
    (digits : digitCount coefficient ≤ places) : ¬ tenPow places ∣ coefficient := by
  have positive : 0 < places := Nat.lt_of_lt_of_le (digitCount_pos coefficient) digits
  exact Nat.not_dvd_of_pos_of_lt (Nat.pos_of_ne_zero some) ((digitCount_le_iff positive).mp digits)

/-- Behind the point, a decimal is whole if the power of ten divides its digits. -/
theorem whole?_of_fraction {negative : Bool} {coefficient : ℕ} {exponent : ℤ}
    (some : coefficient ≠ 0) (fraction : ¬ 0 ≤ exponent) :
    whole? negative coefficient exponent =
      if tenPow exponent.natAbs ∣ coefficient then
        .some (sign negative * (coefficient / tenPow exponent.natAbs : ℕ))
      else none := by
  rw [whole?, if_neg some, if_neg fraction]
  by_cases digits : digitCount coefficient ≤ exponent.natAbs
  · rw [if_pos digits, if_neg (not_dvd_of_digits some digits)]
  · rw [if_neg digits]
    simp only [Nat.dvd_iff_mod_eq_zero]
    cases negative <;> simp [sign]

/-- The integer of a finite decimal is the one that it equals; it has none if it equals none. -/
theorem whole?_eq_some_iff {negative : Bool} {coefficient : ℕ} {exponent : ℤ} (number : ℤ) :
    whole? negative coefficient exponent = some number ↔
      (finite negative coefficient exponent).ratio = number := by
  rw [ratio_eq]
  by_cases zero : coefficient = 0
  · subst zero
    simp [whole?, eq_comm]
  by_cases whole : 0 ≤ exponent
  · obtain ⟨places, rfl⟩ : ∃ places : ℕ, exponent = places := ⟨exponent.toNat, by omega⟩
    rw [whole?, if_neg zero, if_pos whole, Int.toNat_natCast, zpow_natCast]
    have power : (tenPow places : ℤ) = 10 ^ places := by simp [tenPow]
    simp only [power, Option.some_inj]
    cases negative <;> simp only [sign] <;> norm_cast <;> simp
  · obtain ⟨places, rfl⟩ : ∃ places : ℕ, exponent = -places := ⟨exponent.natAbs, by omega⟩
    have positive : 0 < tenPow places := Nat.pow_pos (by norm_num)
    have nonzero : (tenPow places : ℚ) ≠ 0 := by exact_mod_cast positive.ne'
    have power : (10 : ℚ) ^ places = tenPow places := by simp [tenPow]
    rw [whole?_of_fraction zero whole, Int.natAbs_neg, Int.natAbs_natCast, zpow_neg, zpow_natCast,
      power, ← div_eq_mul_inv, div_eq_iff nonzero]
    have cleared : (sign negative * coefficient : ℚ) = number * tenPow places ↔
        sign negative * (coefficient : ℤ) = number * tenPow places := by norm_cast
    rw [cleared, sign_mul_eq_iff positive]
    split
    · rename_i divides
      simp [divides]
    · rename_i rest
      simp [rest]

theorem sign_mul_natAbs (number : ℤ) : sign (number < 0) * number.natAbs = number := by
  by_cases negative : number < 0
  · rw [sign, if_pos (decide_eq_true negative)]
    omega
  · rw [sign, if_neg (by simpa using negative)]
    omega

theorem ratio_ofInt (number : ℤ) : (ofInt number).ratio = number := by
  rw [ofInt, ratio_eq, zpow_zero, mul_one]
  conv_rhs => rw [← sign_mul_natAbs number]
  rw [Int.cast_mul, Int.cast_natCast]

end Decimal

namespace Value

/-- A value stands for an integer if it reads as a finite number that equals it. -/
def IsInteger (value : Value) (number : ℤ) : Prop :=
  ∃ decimal, value.decimal? = some decimal ∧ decimal.isFinite = true ∧ decimal.ratio = number

/-- A value reads as a number that cannot be asked for its integer: an infinity, or a signaling
not-a-number. -/
def RefusesInteger (value : Value) : Prop :=
  ∃ decimal, value.decimal? = some decimal ∧ decimal.isFinite = false ∧
    (decimal.isNaN = true → decimal.isSignaling = true)

theorem IsInteger.unique {value : Value} {number other : ℤ} (is : value.IsInteger number)
    (also : value.IsInteger other) : number = other := by
  obtain ⟨first, read, -, same⟩ := is
  obtain ⟨second, again, -, equal⟩ := also
  cases read.symm.trans again
  exact_mod_cast same.symm.trans equal

theorem wholeNumber_ok_iff {decimal : Decimal} {number : ℤ} :
    wholeNumber decimal = .ok (some number) ↔
      decimal.isFinite = true ∧ decimal.ratio = number := by
  cases decimal with
  | finite negative coefficient exponent =>
    simp [wholeNumber, Decimal.isFinite, Decimal.whole?_eq_some_iff]
  | infinite negative => simp [wholeNumber, Decimal.isFinite]
  | nan negative signaling payload => cases signaling <;> simp [wholeNumber, Decimal.isFinite]

theorem wholeNumber_error_iff {decimal : Decimal} :
    (∃ refusal, wholeNumber decimal = .error refusal) ↔
      decimal.isFinite = false ∧ (decimal.isNaN = true → decimal.isSignaling = true) := by
  cases decimal with
  | finite negative coefficient exponent => simp [wholeNumber, Decimal.isFinite]
  | infinite negative => simp [wholeNumber, Decimal.isFinite, Decimal.isNaN]
  | nan negative signaling payload =>
    cases signaling <;> simp [wholeNumber, Decimal.isFinite, Decimal.isNaN, Decimal.isSignaling]

/-- An integer is read like every other number. -/
theorem int?_eq (value : Value) :
    value.int? = match value.decimal? with
      | some found => wholeNumber found
      | none => .ok none := by
  cases value with
  | int number =>
    exact (wholeNumber_ok_iff.mpr ⟨rfl, Decimal.ratio_ofInt number⟩).symm
  | _ => rfl

theorem isInteger_iff {value : Value} {number : ℤ} :
    value.int? = .ok (some number) ↔ value.IsInteger number := by
  rw [int?_eq, IsInteger]
  cases value.decimal? with
  | none => simp
  | some decimal => simp [wholeNumber_ok_iff]

theorem refusesInteger_iff {value : Value} :
    (∃ refusal, value.int? = .error refusal) ↔ value.RefusesInteger := by
  rw [int?_eq, RefusesInteger]
  cases value.decimal? with
  | none => simp
  | some decimal => simp [wholeNumber_error_iff]

end Value

end Herald
