import Mathlib.Data.Nat.Cast.Order.Field
import Mathlib.Tactic.Positivity
import Herald.Proofs.Comparison
import Herald.Proofs.Shares
import Herald.Proofs.Unpaid

/-! # How near the nearest double is

A double keeps 53 bits, so rounding to one is off by at most one part in `2 ^ 53`; only magnitudes
near the smallest double lose more. What is a double already is not rounded again. From this follow
the errors of storing an amount, of adding to it and taking from it, and of reading it at two
places.
-/

namespace Herald

/-- A quotient is rounded by at most a half. -/
theorem Number.roundHalfEven_off (a : ℕ) {b : ℕ} (divisor : 0 < b) :
    |(roundHalfEven a b : ℚ) - a / b| ≤ 1 / 2 := by
  have low : 2 * (a : ℚ) ≤ 2 * (roundHalfEven a b * b) + b := by
    exact_mod_cast le_roundHalfEven a divisor
  have high : 2 * (roundHalfEven a b * b) ≤ 2 * (a : ℚ) + b := by
    exact_mod_cast Decimal.roundHalfEven_le a b
  have some : (0 : ℚ) < b := by exact_mod_cast divisor
  have split : (a : ℚ) = a / b * b := (div_mul_cancel₀ _ some.ne').symm
  rw [abs_le]
  constructor
  · apply le_of_mul_le_mul_right _ some
    linarith only [low, split]
  · apply le_of_mul_le_mul_right _ some
    linarith only [high, split]

namespace Binary64

open Number

variable {a b u : ℕ}

/-- The number that a finite double is. -/
def ratio : Binary64 → ℚ
  | .finite negative units => (signedUnits negative units : ℚ) / (twoPow unitBits : ℕ)
  | _ => 0

theorem ratio_finite (units : ℕ) :
    (finite false units).ratio = (units : ℚ) / (twoPow unitBits : ℕ) := rfl

theorem ratio_nonneg (units : ℕ) : 0 ≤ (finite false units).ratio := by
  rw [ratio_finite]
  positivity

theorem one_units_pos : (0 : ℚ) < (twoPow unitBits : ℕ) := by exact_mod_cast twoPow_pos unitBits

/-! ## Rounding -/

/-- Rounding to a double is off by at most half of the spacing. -/
theorem roundUnits_off (divisor : 0 < b) :
    |(roundUnits a b : ℚ) - a / b| ≤ (twoPow (spacingBits (a / b)) : ℕ) / 2 := by
  have steps := twoPow_pos (spacingBits (a / b))
  rw [roundUnits]
  generalize twoPow (spacingBits (a / b)) = step at *
  have off := roundHalfEven_off a (Nat.mul_pos divisor steps)
  have some : (0 : ℚ) < step := by exact_mod_cast steps
  have scaled : ((roundHalfEven a (b * step) * step : ℕ) : ℚ) - a / b =
      (roundHalfEven a (b * step) - a / (b * step : ℕ)) * step := by
    push_cast
    field_simp
  rw [scaled, abs_mul, abs_of_pos some]
  linarith only [mul_le_mul_of_nonneg_right off some.le]

/-- Rounding to a double is off by at most one part in `2 ^ 53`, if it is of an integer or of a
magnitude of 53 bits. -/
theorem roundUnits_near (divisor : 0 < b) (large : b = 1 ∨ twoPow 52 ≤ a / b) :
    |(roundUnits a b : ℚ) - a / b| ≤ a / b / 2 ^ 53 := by
  have positive : (0 : ℚ) ≤ a / b := by positivity
  have whole : ((a / b : ℕ) : ℚ) ≤ a / b := Nat.cast_div_le
  rcases Nat.eq_zero_or_pos (spacingBits (a / b)) with fine | coarse
  · have single : twoPow 0 = 1 := rfl
    rcases large with rfl | large
    · have same : roundUnits a 1 = a := by
        rw [roundUnits, fine, single, mul_one, mul_one, roundHalfEven_one]
      rw [same, Nat.cast_one, div_one, sub_self, abs_zero]
      positivity
    · have off := roundUnits_off (a := a) divisor
      rw [fine, single] at off
      have large : 2 ^ 52 ≤ a / b := large
      have bits : (2 : ℚ) ^ 52 ≤ (a / b : ℕ) := by exact_mod_cast large
      rw [Nat.cast_one] at off
      refine off.trans ?_
      rw [le_div_iff₀ (by positivity)]
      linarith only [bits, whole]
  · have off := roundUnits_off (a := a) divisor
    have kept : ((twoPow (spacingBits (a / b)) : ℕ) : ℚ) * 2 ^ 52 ≤ (a / b : ℕ) := by
      exact_mod_cast spacing_le coarse
    refine off.trans ?_
    rw [le_div_iff₀ (by positivity)]
    linarith only [kept, whole]

/-- The spacing around a rounded magnitude divides it: it is at most the spacing around what was
rounded, or the magnitude is the power of two at which the next spacing starts. -/
theorem spacing_dvd (divisor : 0 < b) :
    twoPow (spacingBits (roundUnits a b)) ∣ roundUnits a b := by
  obtain ⟨width, same⟩ : ∃ width, spacingBits (a / b) = width := ⟨_, rfl⟩
  have short : a / b < twoPow (width + 53) := by
    refine Nat.lt_log2_self.trans_le (Nat.pow_le_pow_right (by decide) ?_)
    unfold spacingBits at same
    omega
  have most : roundUnits a b ≤ twoPow (width + 53) := by
    rw [roundUnits, same]
    exact steps_le_of_le divisor (twoPow_pos _) (twoPow_dvd (Nat.le_add_right _ _))
      ((Nat.div_lt_iff_lt_mul divisor).mp short).le
  rcases most.lt_or_eq with less | top
  · have divides : twoPow width ∣ roundUnits a b := by
      rw [roundUnits, same]
      exact Dvd.intro_left _ rfl
    refine (twoPow_dvd ?_).trans divides
    by_cases none : roundUnits a b = 0
    · rw [none]
      exact Nat.zero_le _
    · have bits := (Nat.log2_lt none).mpr less
      unfold spacingBits
      omega
  · rw [top]
    apply twoPow_dvd
    rw [spacingBits, show (twoPow (width + 53)).log2 = width + 53 from Nat.log2_two_pow]
    omega

/-- A magnitude that is rounded to a double is not rounded again. -/
theorem roundUnits_roundUnits (divisor : 0 < b) :
    roundUnits (roundUnits a b) 1 = roundUnits a b := by
  have divides := spacing_dvd (a := a) divisor
  have steps := twoPow_pos (spacingBits (roundUnits a b))
  conv_lhs => rw [roundUnits, Nat.div_one]
  exact le_antisymm (steps_le_of_le one_pos steps divides (by omega))
    (le_steps_of_le one_pos steps divides (by omega))

theorem units_of_finite (finite : ofUnits false a b = .finite false u) :
    roundUnits a b = u ∧ u < overflowUnits := by
  unfold ofUnits at finite
  dsimp only at finite
  split at finite
  · rename_i fits
    cases finite
    exact ⟨rfl, fits⟩
  · cases finite

/-- The nearest double of a double is itself. -/
theorem ofUnits_of_finite (divisor : 0 < b) (finite : ofUnits false a b = .finite false u) :
    ofUnits false u 1 = .finite false u := by
  obtain ⟨rfl, fits⟩ := units_of_finite finite
  rw [ofUnits, roundUnits_roundUnits divisor, if_pos fits]

/-- Where the doubles end, and how much room there is between. -/
structure Reach : Prop where
  /-- The first magnitude beyond the doubles is not rounded. -/
  end_eq : roundUnits overflowUnits 1 = overflowUnits
  end_le : overflowUnits ≤ tenPow 310 * twoPow unitBits
  lt_end : 2 * (2 ^ 100 * twoPow unitBits) < overflowUnits
  one_le : 2 * twoPow unitBits ≤ tenPow 330
  le_one : twoPow 52 * 100 ≤ twoPow unitBits
  /-- A power of two within them is a double. -/
  power : ofUnits false (twoPow 60 * twoPow unitBits) 1 =
    .finite false (twoPow 60 * twoPow unitBits)

theorem reach : Reach where
  end_eq := by decide +kernel
  end_le := by decide +kernel
  lt_end := by decide +kernel
  one_le := by decide +kernel
  le_one := by decide +kernel
  power := by decide +kernel

/-- Below half of the smallest double there is only zero. -/
theorem ofUnits_of_vanishing (divisor : 0 < b) (vanishes : 2 * a ≤ b) :
    ofUnits false a b = .finite false 0 := by
  have room : 0 < overflowUnits := twoPow_pos 2098
  rw [ofUnits, roundUnits_of_vanishing vanishes divisor, if_pos room]

/-- Beyond the largest double there is only an infinity. -/
theorem ofUnits_of_overflow (divisor : 0 < b) (beyond : overflowUnits * b ≤ a) :
    ofUnits false a b = .infinite false := by
  have most : overflowUnits ≤ roundUnits a b := by
    conv_lhs => rw [← reach.end_eq]
    exact roundUnits_mono one_pos divisor (by omega)
  rw [ofUnits, if_neg most.not_gt]

/-- Within 100 bits the nearest double is finite, and off by at most one part in `2 ^ 53`. -/
theorem ofUnits_near (divisor : 0 < b) (large : b = 1 ∨ twoPow 52 ≤ a / b)
    (few : (a : ℚ) / b ≤ 2 ^ 100 * (twoPow unitBits : ℕ)) :
    ∃ units, ofUnits false a b = .finite false units ∧
      |(units : ℚ) - a / b| ≤ a / b / 2 ^ 53 := by
  have near := roundUnits_near divisor large
  have positive : (0 : ℚ) ≤ a / b := by positivity
  refine ⟨roundUnits a b, ?_, near⟩
  have room : 2 * (2 ^ 100 * (twoPow unitBits : ℕ)) < (overflowUnits : ℚ) := by
    exact_mod_cast reach.lt_end
  have fits : (roundUnits a b : ℚ) < overflowUnits := by
    have high := (abs_le.mp near).2
    have part : (a : ℚ) / b / 2 ^ 53 ≤ a / b := div_le_self positive (by norm_num)
    linarith only [high, part, few, room]
  rw [ofUnits, if_pos (by exact_mod_cast fits)]

/-! ## Sums and differences -/

theorem add_units (u v : ℕ) :
    (finite false u).add (finite false v) = ofUnits false (u + v) 1 := by
  by_cases none : u = 0 ∧ v = 0
  · obtain ⟨rfl, rfl⟩ := none
    exact (ofUnits_of_vanishing one_pos (Nat.zero_le 1)).symm
  · have unsigned : ¬ ((u : ℤ) + v < 0) := by omega
    have sum : ((u : ℤ) + v).natAbs = u + v := by omega
    simp only [add, none, ↓reduceIte, ofSignedUnits, signedUnits, Bool.false_eq_true, unsigned,
      decide_false, sum]

theorem sub_units (le : v ≤ u) :
    (finite false u).sub (finite false v) = ofUnits false (u - v) 1 := by
  by_cases none : u = 0 ∧ v = 0
  · obtain ⟨rfl, rfl⟩ := none
    exact (ofUnits_of_vanishing one_pos (Nat.zero_le 1)).symm
  · have unsigned : ¬ ((u : ℤ) + -v < 0) := by omega
    have rest : ((u : ℤ) + -v).natAbs = u - v := by omega
    simp only [sub, neg, add, none, ↓reduceIte, ofSignedUnits, signedUnits, Bool.false_eq_true,
      Bool.not_false, unsigned, decide_false, rest]

/-! ## Decimals -/

/-- A number that is not below zero is a quotient of units. -/
theorem exists_units {number : ℚ} (unsigned : 0 ≤ number) :
    ∃ numerator denominator : ℕ, 0 < denominator ∧
      (numerator : ℚ) = number * (twoPow unitBits : ℕ) * denominator := by
  have positive : 0 ≤ number * (twoPow unitBits : ℕ) := by positivity
  generalize number * (twoPow unitBits : ℕ) = units at positive ⊢
  refine ⟨units.num.toNat, units.den, units.den_pos, ?_⟩
  rw [Rat.mul_den_eq_num, ← Int.cast_natCast, Int.toNat_of_nonneg (Rat.num_nonneg.mpr positive)]

theorem tenPow_cast (places : ℕ) : ((tenPow places : ℕ) : ℚ) = 10 ^ (places : ℤ) := by
  rw [zpow_natCast]
  exact Nat.cast_pow 10 places

/-- What is at least `10 ^ 310` is beyond the largest double. -/
theorem overflow_of_le {number : ℚ} (large : 10 ^ (310 : ℤ) ≤ number)
    (value : (a : ℚ) = number * (twoPow unitBits : ℕ) * b) : overflowUnits * b ≤ a := by
  have room : (overflowUnits : ℚ) ≤ (tenPow 310 : ℕ) * (twoPow unitBits : ℕ) := by
    rw [← Nat.cast_mul]
    exact Nat.cast_le.mpr reach.end_le
  have large : ((tenPow 310 : ℕ) : ℚ) ≤ number := (tenPow_cast 310).trans_le large
  generalize overflowUnits = beyond at *
  generalize tenPow 310 = power at *
  generalize twoPow unitBits = one at *
  have bound : (beyond : ℚ) * b ≤ a := by
    rw [value]
    calc (beyond : ℚ) * b ≤ power * one * b := by gcongr
      _ ≤ number * one * b := by gcongr
  exact_mod_cast bound

/-- What is below `10 ^ -330` is at most half of the smallest double. -/
theorem vanishes_of_lt {number : ℚ} (small : number ≤ 10 ^ (-330 : ℤ))
    (value : (a : ℚ) = number * (twoPow unitBits : ℕ) * b) : 2 * a ≤ b := by
  have room : (2 : ℚ) * (twoPow unitBits : ℕ) ≤ (tenPow 330 : ℕ) := by
    exact_mod_cast reach.one_le
  have inverse : (10 : ℚ) ^ (-330 : ℤ) * (tenPow 330 : ℕ) = 1 := by
    rw [tenPow_cast, ← zpow_add₀ (by norm_num)]
    rfl
  have unsigned : (0 : ℚ) ≤ 10 ^ (-330 : ℤ) := zpow_nonneg (by norm_num) _
  generalize (10 : ℚ) ^ (-330 : ℤ) = least at *
  generalize tenPow 330 = power at *
  generalize twoPow unitBits = one at *
  have bound : (2 : ℚ) * a ≤ b := by
    rw [value]
    calc (2 : ℚ) * (number * one * b) ≤ 2 * (least * one * b) := by gcongr
      _ = least * (2 * one) * b := by ring
      _ ≤ least * power * b := by gcongr
      _ = b := by rw [inverse, one_mul]
  exact_mod_cast bound

/-- The double of a decimal is the nearest one, whatever its size: beyond the range of doubles it is
infinite or zero, as what is rounded would be. -/
theorem ofScientific_units (coefficient : ℕ) (exponent : ℤ) :
    ∃ numerator denominator : ℕ, 0 < denominator ∧
      ofScientific false coefficient exponent = ofUnits false numerator denominator ∧
        (numerator : ℚ) =
          coefficient * 10 ^ exponent * (twoPow unitBits : ℕ) * denominator := by
  by_cases none : coefficient = 0
  · refine ⟨0, 1, one_pos, ?_, ?_⟩
    · rw [ofScientific, if_pos none]
      exact (ofUnits_of_vanishing one_pos (Nat.zero_le 1)).symm
    · rw [none, Nat.cast_zero, zero_mul, zero_mul, zero_mul]
  by_cases inside : ¬ 310 < exponent + digitCount coefficient ∧
      ¬ exponent + digitCount coefficient < -330
  · obtain ⟨numerator, denominator, divisor, same, value⟩ :=
      ofScientific_eq none inside.1 inside.2
    exact ⟨numerator, denominator, divisor, same, value⟩
  have least := Decimal.pow_adjusted_le none exponent
  have most := Decimal.lt_pow_adjusted coefficient exponent
  unfold Decimal.adjusted at least most
  have unsigned : (0 : ℚ) ≤ coefficient * 10 ^ exponent := by positivity
  obtain ⟨numerator, denominator, divisor, value⟩ := exists_units unsigned
  refine ⟨numerator, denominator, divisor, ?_, value⟩
  by_cases high : 310 < exponent + digitCount coefficient
  · have large : (10 : ℚ) ^ (310 : ℤ) ≤ coefficient * 10 ^ exponent :=
      (zpow_le_zpow_right₀ (by norm_num) (by omega)).trans least
    rw [ofUnits_of_overflow divisor (overflow_of_le large value)]
    simp only [ofScientific, none, high, ↓reduceIte]
  · have low : exponent + digitCount coefficient < -330 := by omega
    have small : (coefficient : ℚ) * 10 ^ exponent ≤ 10 ^ (-330 : ℤ) :=
      most.le.trans (zpow_le_zpow_right₀ (by norm_num) (by omega))
    rw [ofUnits_of_vanishing divisor (vanishes_of_lt small value)]
    simp only [ofScientific, none, high, low, ↓reduceIte]

/-! ## Doubles that columns hold -/

/-- A double that something is rounded to. -/
def IsNearest (double : Binary64) : Prop :=
  ∃ numerator denominator : ℕ, 0 < denominator ∧ double = ofUnits false numerator denominator

theorem isNearest_ofUnits (divisor : 0 < b) : (ofUnits false a b).IsNearest := ⟨a, b, divisor, rfl⟩

theorem isNearest_infinite : (infinite false).IsNearest :=
  ⟨overflowUnits * 1, 1, one_pos, (ofUnits_of_overflow one_pos le_rfl).symm⟩

namespace IsNearest

variable {double other : Binary64}

theorem isUnsigned (nearest : double.IsNearest) : double.IsUnsigned := by
  obtain ⟨numerator, denominator, -, same⟩ := nearest
  rw [same]
  exact isUnsigned_ofUnits numerator denominator

/-- A finite one is its own nearest double. -/
theorem ofUnits_eq (nearest : (finite false u).IsNearest) : ofUnits false u 1 = finite false u := by
  obtain ⟨numerator, denominator, divisor, same⟩ := nearest
  exact ofUnits_of_finite divisor same.symm

theorem add (left : double.IsNearest) (right : other.IsNearest) :
    (double.add other).IsNearest := by
  rcases left.isUnsigned with ⟨u, rfl⟩ | rfl <;> rcases right.isUnsigned with ⟨v, rfl⟩ | rfl
  · rw [add_units]
    exact isNearest_ofUnits one_pos
  · exact isNearest_infinite
  · exact isNearest_infinite
  · exact isNearest_infinite

/-- Two that are not apart are the same. -/
theorem le_antisymm (left : double.IsNearest) (right : other.IsNearest)
    (le : double.le other = true) (ge : other.le double = true) : double = other := by
  rcases left.isUnsigned with ⟨u, rfl⟩ | rfl <;> rcases right.isUnsigned with ⟨v, rfl⟩ | rfl
  · simp only [Binary64.le, signedUnits, Bool.false_eq_true, ↓reduceIte, decide_eq_true_eq] at le ge
    rw [show u = v by omega]
  · cases ge
  · cases le
  · rfl

end IsNearest

/-- A double that is at least a number is at least the double nearest to it. -/
theorem ofUnits_le {number : ℚ} (nearest : (finite false u).IsNearest) (divisor : 0 < b)
    (value : (a : ℚ) = number * (twoPow unitBits : ℕ) * b) (le : number ≤ (finite false u).ratio) :
    (ofUnits false a b).le (finite false u) = true := by
  rw [← nearest.ofUnits_eq]
  apply ofUnits_mono divisor one_pos
  rw [ratio_finite, le_div_iff₀ one_units_pos] at le
  generalize twoPow unitBits = one at *
  have bound : (a : ℚ) * 1 ≤ u * b := by
    rw [value, mul_one]
    gcongr
  exact_mod_cast bound

/-- A double that is at most a number is at most the double nearest to it. -/
theorem le_ofUnits {number : ℚ} (nearest : (finite false u).IsNearest) (divisor : 0 < b)
    (value : (a : ℚ) = number * (twoPow unitBits : ℕ) * b) (le : (finite false u).ratio ≤ number) :
    (finite false u).le (ofUnits false a b) = true := by
  rw [← nearest.ofUnits_eq]
  apply ofUnits_mono one_pos divisor
  rw [ratio_finite, div_le_iff₀ one_units_pos] at le
  generalize twoPow unitBits = one at *
  have bound : (u : ℚ) * b ≤ a * 1 := by
    rw [value, mul_one]
    gcongr
  exact_mod_cast bound

/-- Between 1/100 and 100 bits the double nearest to a number is finite, and off by at most one part
in `2 ^ 53`. -/
theorem ratio_near {number : ℚ} (divisor : 0 < b)
    (value : (a : ℚ) = number * (twoPow unitBits : ℕ) * b) (large : 1 / 100 ≤ number)
    (few : number ≤ 2 ^ 100) :
    ∃ units, ofUnits false a b = .finite false units ∧
      |(finite false units).ratio - number| ≤ number / 2 ^ 53 := by
  have room := reach.le_one
  have one := one_units_pos
  simp only [ratio_finite]
  have bits := @ofUnits_near a b divisor
  generalize twoPow unitBits = unit at *
  have some : (0 : ℚ) < b := by exact_mod_cast divisor
  have quotient : (a : ℚ) / b = number * unit := by rw [value, mul_div_cancel_right₀ _ some.ne']
  have room : (twoPow 52 : ℚ) * 100 ≤ unit := by exact_mod_cast room
  have many : twoPow 52 ≤ a / b := by
    rw [Nat.le_div_iff_mul_le divisor]
    have bound : (twoPow 52 : ℚ) * b ≤ a := by
      rw [value]
      refine mul_le_mul_of_nonneg_right ?_ some.le
      calc (twoPow 52 : ℚ) ≤ 1 / 100 * unit := by linarith only [room]
        _ ≤ number * unit := mul_le_mul_of_nonneg_right large one.le
    exact_mod_cast bound
  rw [quotient] at bits
  obtain ⟨units, same, near⟩ := bits (.inr many) (mul_le_mul_of_nonneg_right few one.le)
  refine ⟨units, same, ?_⟩
  have scaled : (units : ℚ) / unit - number = (units - number * unit) / unit := by
    field_simp
  rw [scaled, abs_div, abs_of_pos one, div_le_iff₀ one]
  exact near.trans_eq (by ring)

/-- Whatever the size of a number, the finite double nearest to it is off by at most one part in
`2 ^ 53` of one more. -/
theorem ratio_off {number : ℚ} (divisor : 0 < b)
    (value : (a : ℚ) = number * (twoPow unitBits : ℕ) * b) (unsigned : 0 ≤ number)
    (finite : ofUnits false a b = .finite false u) :
    |(Binary64.finite false u).ratio - number| ≤ (number + 1) / 2 ^ 53 := by
  have off := roundUnits_off (a := a) divisor
  have room : twoPow 52 ≤ twoPow unitBits := Nat.le_of_dvd (twoPow_pos _) (twoPow_dvd (by decide))
  have one := one_units_pos
  have some : (0 : ℚ) < b := by exact_mod_cast divisor
  have quotient : (a : ℚ) / b = number * (twoPow unitBits : ℕ) := by
    rw [value, mul_div_cancel_right₀ _ some.ne']
  have whole : ((a / b : ℕ) : ℚ) ≤ a / b := Nat.cast_div_le
  have spacing : ((twoPow (spacingBits (a / b)) : ℕ) : ℚ) * 2 ^ 52 ≤
      (number + 1) * (twoPow unitBits : ℕ) := by
    rcases Nat.eq_zero_or_pos (spacingBits (a / b)) with fine | coarse
    · have single : twoPow 0 = 1 := rfl
      rw [fine, single, Nat.cast_one, one_mul]
      generalize twoPow unitBits = unit at *
      have bits : (2 : ℚ) ^ 52 ≤ unit := by exact_mod_cast room
      nlinarith only [bits, unsigned, one]
    · have kept : ((twoPow (spacingBits (a / b)) : ℕ) : ℚ) * 2 ^ 52 ≤ (a / b : ℕ) := by
        exact_mod_cast spacing_le coarse
      linarith only [kept, whole, quotient, one]
  rw [(units_of_finite finite).1, quotient] at off
  rw [ratio_finite]
  generalize twoPow unitBits = unit at *
  have scaled : (u : ℚ) / unit - number = (u - number * unit) / unit := by
    field_simp
  rw [scaled, abs_div, abs_of_pos one, div_le_iff₀ one]
  linarith only [off, spacing]

/-- What is read at two places is a number of hundredths. -/
theorem readPlaces_ratio (units : ℕ) :
    (readPlaces 2 (finite false units)).ratio = scaledUnits 2 units / 100 := by
  simp only [readPlaces, Decimal.ratio, Bool.false_eq_true, ↓reduceIte, one_mul]
  generalize scaledUnits 2 units = hundredths
  norm_num
  exact mul_one_div _ _

/-- What is read at two places is off by at most half of the last one. -/
theorem readPlaces_near (units : ℕ) :
    |(readPlaces 2 (finite false units)).ratio - (finite false units).ratio| ≤ 1 / 200 := by
  have off := roundHalfEven_off (units * tenPow 2) (twoPow_pos unitBits)
  rw [readPlaces_ratio, ratio_finite, scaledUnits]
  generalize roundHalfEven (units * tenPow 2) (twoPow unitBits) = scaled at *
  generalize twoPow unitBits = unit at *
  have hundred : ((units * tenPow 2 : ℕ) : ℚ) / unit = 100 * (units / unit) := by
    rw [show tenPow 2 = 100 from rfl]
    push_cast
    ring
  rw [hundred, abs_le] at off
  rw [abs_le]
  constructor
  · linarith only [off.1]
  · linarith only [off.2]

end Binary64

/-- An amount that may be moved is stored as the double nearest to it. -/
theorem BalanceLedger.stored_nearest {amount : Decimal} (finite : amount.isFinite = true)
    (unsigned : 0 ≤ amount.ratio) :
    ∃ numerator denominator : ℕ, 0 < denominator ∧
      stored amount = .ok (Binary64.ofUnits false numerator denominator) ∧
        (numerator : ℚ) =
          amount.ratio * (Number.twoPow Binary64.unitBits : ℕ) * denominator := by
  cases amount with
  | infinite negative => cases finite
  | nan negative signaling payload => cases finite
  | finite negative coefficient exponent =>
    cases negative with
    | false =>
      obtain ⟨numerator, denominator, divisor, same, value⟩ :=
        Binary64.ofScientific_units coefficient exponent
      refine ⟨numerator, denominator, divisor, ?_, ?_⟩
      · have kept := (Binary64.isUnsigned_ofScientific coefficient exponent).column?_eq
        rw [stored, Amount.ofDecimal?]
        simp only [instAmountBinary64, Number.nearestDouble, kept]
        rw [same]
      · rw [value, Decimal.ratio, if_neg Bool.false_ne_true, one_mul]
    | true =>
      have magnitude : (0 : ℚ) ≤ coefficient * 10 ^ exponent := by positivity
      rw [Decimal.ratio_of_sign, if_pos rfl] at unsigned ⊢
      have none : (coefficient : ℚ) * 10 ^ exponent = 0 := by linarith only [magnitude, unsigned]
      have zero : coefficient = 0 := by
        have power : (10 : ℚ) ^ exponent ≠ 0 := zpow_ne_zero _ (by norm_num)
        exact_mod_cast (mul_eq_zero.mp none).resolve_right power
      subst zero
      refine ⟨0, 1, one_pos, ?_, ?_⟩
      · have kept : (Binary64.finite true 0).column? = some (Binary64.ofUnits false 0 1) := by
          rw [Binary64.ofUnits_of_vanishing one_pos (Nat.zero_le 1)]
          rfl
        simp only [stored, Amount.ofDecimal?, Number.nearestDouble, Binary64.ofScientific,
          ↓reduceIte, kept]
      · rw [Nat.cast_zero, zero_mul, neg_zero, zero_mul, zero_mul]

end Herald
