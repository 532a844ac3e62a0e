import Herald.Proofs.Cents

/-! # Magnitudes of costs

What a double can hold is far below what a decimal can, and a sum of decimals stops growing once its
last digit is above what is added. So however many costs a tally adds up, if each of them has a
stored form that a balance covers, the sum has a value and is bounded.
-/

namespace Herald.Decimal

open Number

/-- A finite amount that is not below zero and at most a power of ten. -/
def IsWithin (limit : ℤ) : Decimal → Prop
  | .finite negative coefficient exponent =>
    (negative = true → coefficient = 0) ∧ (coefficient : ℚ) * 10 ^ exponent ≤ 10 ^ limit
  | _ => False

theorem isWithin_zero (limit : ℤ) : zero.IsWithin limit := by
  refine ⟨fun _ => rfl, ?_⟩
  simp only [Nat.cast_zero, zero_mul]
  positivity

theorem IsWithin.mono {amount : Decimal} {limit wider : ℤ} (within : amount.IsWithin limit)
    (le : limit ≤ wider) : amount.IsWithin wider := by
  cases amount with
  | finite negative coefficient exponent =>
    exact ⟨within.1, within.2.trans (zpow_le_zpow_right₀ (by norm_num) le)⟩
  | infinite negative => exact within
  | nan negative signaling payload => exact within

/-! ## Rounding -/

/-- A quotient is rounded up by at most a half. -/
theorem roundHalfEven_le (numerator denominator : ℕ) :
    2 * (roundHalfEven numerator denominator * denominator) ≤ 2 * numerator + denominator := by
  have split := Nat.div_add_mod numerator denominator
  rw [mul_comm] at split
  unfold roundHalfEven
  dsimp only
  generalize numerator / denominator = quotient at split ⊢
  generalize numerator % denominator = rest at split ⊢
  have tie : quotient % 2 * denominator ≤ denominator := by
    have few : quotient % 2 ≤ 1 := by omega
    simpa only [one_mul] using Nat.mul_le_mul_right denominator few
  split_ifs with low high
  · omega
  · rw [Nat.add_mul]
    omega
  · rw [Nat.add_mul]
    omega

/-- Dropping digits rounds up by at most a half of the last digit kept. -/
theorem dropDigits_le (coefficient places : ℕ) :
    2 * (dropDigits coefficient places * 10 ^ places) ≤ 2 * coefficient + 10 ^ places := by
  unfold dropDigits
  split
  · simp
  · exact roundHalfEven_le coefficient (10 ^ places)

/-- What is kept has at most as many digits as a result may have. -/
theorem kept_le (coefficient : ℕ) (exponent : ℤ) :
    dropDigits coefficient (excess coefficient exponent) ≤ 10 ^ 28 := by
  generalize dropped : excess coefficient exponent = places
  have few : digitCount coefficient ≤ 28 + places := by
    unfold excess precision at dropped
    omega
  have less := (digitCount_le_iff (by omega)).mp few
  have half := dropDigits_le coefficient places
  rw [pow_add] at less
  have power : 0 < 10 ^ places := by positivity
  by_contra more
  have more : 10 ^ 28 + 1 ≤ dropDigits coefficient places := by omega
  have product := Nat.mul_le_mul_right (10 ^ places) more
  rw [Nat.add_mul] at product
  omega

/-- Dropping digits of a number that hardly exceeds a power of ten adds at most a half of the last
digit kept. -/
theorem dropped_near {coefficient : ℕ} {exponent limit : ℤ} (places : ℕ)
    (bound : (coefficient : ℚ) * 10 ^ exponent ≤ 10 ^ limit + 10 ^ (limit - 29)) :
    2 * (dropDigits coefficient places * (10 : ℚ) ^ (exponent + places)) ≤
      2 * (10 ^ limit + 10 ^ (limit - 29)) + 10 ^ (exponent + places) := by
  have half := dropDigits_le coefficient places
  generalize dropDigits coefficient places = kept at half ⊢
  have power : (10 : ℚ) ^ (exponent + places) = 10 ^ places * 10 ^ exponent := by
    rw [zpow_add₀ (by norm_num), zpow_natCast, mul_comm]
  have scaled : ((2 * (kept * 10 ^ places) : ℕ) : ℚ) * 10 ^ exponent ≤
      (2 * coefficient + 10 ^ places : ℕ) * 10 ^ exponent := by
    gcongr
  push_cast at scaled
  rw [power]
  linarith only [scaled, bound]

/-- A whole number that exceeds a power of ten by little more than a half does not exceed it. -/
theorem le_of_near {kept : ℕ} {digits : ℤ} (near : 2 * (kept : ℚ) ≤ 2 * 10 ^ digits + 51 / 50) :
    (kept : ℚ) ≤ 10 ^ digits := by
  rcases le_or_gt 0 digits with whole | part
  · obtain ⟨places, rfl⟩ := Int.eq_ofNat_of_zero_le whole
    rw [zpow_natCast] at near ⊢
    have less : kept < 10 ^ places + 1 := by
      exact_mod_cast (by linarith only [near] : (kept : ℚ) < 10 ^ places + 1)
    exact_mod_cast Nat.lt_succ_iff.mp less
  · have small : (10 : ℚ) ^ digits ≤ 10 ^ (-1 : ℤ) := by
      gcongr
      · norm_num
      · omega
    have none : kept < 1 := by
      exact_mod_cast (by norm_num at small; linarith only [near, small] : (kept : ℚ) < 1)
    rw [Nat.lt_one_iff.mp none, Nat.cast_zero]
    positivity

/-- What is kept of a number that exceeds a power of ten by less than half of its last digit does
not exceed it. -/
theorem dropped_within {coefficient : ℕ} {exponent limit : ℤ}
    (bound : (coefficient : ℚ) * 10 ^ exponent ≤ 10 ^ limit + 10 ^ (limit - 29)) :
    (dropDigits coefficient (excess coefficient exponent) : ℕ) *
      (10 : ℚ) ^ (exponent + excess coefficient exponent) ≤ 10 ^ limit := by
  have most := kept_le coefficient exponent
  have near := dropped_near (excess coefficient exponent) bound
  generalize dropDigits coefficient (excess coefficient exponent) = kept at most near ⊢
  generalize exponent + (excess coefficient exponent : ℤ) = lower at near ⊢
  have unit : (0 : ℚ) < 10 ^ lower := by positivity
  obtain ⟨digits, rfl⟩ : ∃ digits, limit = digits + lower := ⟨limit - lower, by omega⟩
  rcases le_or_gt 28 digits with many | few
  · calc (kept : ℚ) * 10 ^ lower ≤ 10 ^ (28 : ℤ) * 10 ^ lower := by
          gcongr
          exact_mod_cast most
      _ ≤ 10 ^ digits * 10 ^ lower := by
          gcongr
          norm_num
      _ = 10 ^ (digits + lower) := (zpow_add₀ (by norm_num) ..).symm
  · -- The last digit kept is above what exceeds the power of ten, so that is rounded off.
    have rest : (10 : ℚ) ^ (digits + lower - 29) ≤ 1 / 100 * 10 ^ lower := by
      have split : digits + lower - 29 = digits - 29 + lower := by omega
      have hundredth : (1 : ℚ) / 100 = 10 ^ (-2 : ℤ) := by norm_num
      rw [split, zpow_add₀ (by norm_num), hundredth]
      gcongr
      · norm_num
      · omega
    rw [zpow_add₀ (by norm_num)] at near ⊢
    have near : 2 * (kept : ℚ) ≤ 2 * 10 ^ digits + 51 / 50 := by
      refine le_of_mul_le_mul_right ?_ unit
      linarith only [near, rest]
    exact mul_le_mul_of_nonneg_right (le_of_near near) unit.le

/-- What is looked at here is less than ten times a power of ten. -/
theorem hardly_exceeds (limit : ℤ) :
    (10 : ℚ) ^ limit + 10 ^ (limit - 29) < 10 ^ (limit + 1) := by
  have less : (10 : ℚ) ^ (limit - 29) ≤ 10 ^ limit := by
    gcongr
    · norm_num
    · omega
  have positive : (0 : ℚ) < 10 ^ limit := by positivity
  rw [zpow_add_one₀ (by norm_num)]
  linarith only [less, positive]

/-- Rounding overflows only far beyond what is looked at here. -/
theorem rounded_within {coefficient : ℕ} {exponent limit : ℤ} (low : limit ≤ 1000)
    (bound : (coefficient : ℚ) * 10 ^ exponent ≤ 10 ^ limit + 10 ^ (limit - 29)) :
    ∃ total, rounded false coefficient exponent = .ok total ∧ total.IsWithin limit := by
  have within := dropped_within bound
  cases ok : rounded false coefficient exponent with
  | ok result =>
    obtain ⟨kept, lower, rfl, same⟩ := rounded_ok ok
    exact ⟨_, rfl, fun negative => absurd negative Bool.false_ne_true, same.trans_le within⟩
  | error signal =>
    exfalso
    unfold rounded at ok
    split at ok
    · cases ok
    · rename_i some
      split at ok
      · rename_i beyond
        have first := (pow_adjusted_le some exponent).trans_lt (bound.trans_lt (hardly_exceeds limit))
        have order := (zpow_lt_zpow_iff_right₀ (by norm_num)).mp first
        unfold topExponent at beyond
        omega
      · dsimp only at ok
        split at ok
        · cases ok
        · rename_i long
          have dropped : ((excess coefficient exponent : ℕ) : ℤ) =
              max (max 0 ((digitCount coefficient : ℤ) - precision)) (bottomExponent - exponent) :=
            Int.toNat_of_nonneg (not_le.mp long).le
          rw [← dropped, Int.toNat_natCast] at ok
          split at ok
          · rename_i carries
            split at ok
            · rename_i beyond
              rw [carries] at within
              have whole : ((tenPow precision : ℕ) : ℚ) = 10 ^ (28 : ℤ) := by
                norm_num [tenPow, precision]
              rw [whole, ← zpow_add₀ (by norm_num)] at within
              have order := (zpow_le_zpow_iff_right₀ (by norm_num)).mp within
              have digits : digitCount (tenPow (precision - 1)) ≤ 28 :=
                (digitCount_le_iff (by norm_num)).mpr (by norm_num [tenPow, precision])
              unfold topExponent adjusted at beyond
              omega
            · cases ok
          · cases ok

/-! ## Sums -/

/-- A coefficient that is aligned to a smaller exponent writes the same number. -/
theorem aligned_eq {base exponent : ℤ} (below : base ≤ exponent) (coefficient : ℕ) :
    ((coefficient * tenPow (exponent - base).toNat : ℕ) : ℚ) * 10 ^ base =
      coefficient * 10 ^ exponent := by
  obtain ⟨places, rfl⟩ : ∃ places : ℕ, exponent = base + places :=
    ⟨(exponent - base).toNat, by omega⟩
  have power : tenPow places = 10 ^ places := rfl
  rw [add_sub_cancel_left, Int.toNat_natCast, zpow_add₀ (by norm_num), zpow_natCast, power]
  push_cast
  ring

/-- A sum of magnitudes is rounded as the number that they come to when they are aligned. -/
theorem addAligned_eq {n m : Bool} {a b : ℕ} {e f : ℤ} (left : n = true → a = 0)
    (right : m = true → b = 0) : ∃ (sign : Bool) (total : ℕ),
      addAligned n a e m b f = rounded sign total (min e f) ∧ (sign = true → total = 0) ∧
        (total : ℚ) * 10 ^ min e f = a * 10 ^ e + b * 10 ^ f := by
  let first := a * tenPow (e - min e f).toNat
  let second := b * tenPow (f - min e f).toNat
  have plus : ∀ (sign : Bool) (digits places : ℕ), (sign = true → digits = 0) →
      (if sign then -((digits : ℤ) * (tenPow places : ℕ)) else (digits : ℤ) * (tenPow places : ℕ)) =
        (digits * tenPow places : ℕ) := by
    intro sign digits places unsigned
    cases sign with
    | false => simp
    | true => simp [unsigned rfl]
  have value : addAligned n a e m b f = rounded
      (if first + second = 0 then n && m else false) (first + second) (min e f) := by
    have sum : ((first : ℤ) + (second : ℤ)).natAbs = first + second := by omega
    have zero : ((first : ℤ) + second = 0) ↔ first + second = 0 := by omega
    have negative : decide ((first : ℤ) + second < 0) = false := decide_eq_false (by omega)
    simp only [addAligned, plus n a _ left, plus m b _ right]
    change rounded (if (first : ℤ) + second = 0 then n && m else decide ((first : ℤ) + second < 0))
      ((first : ℤ) + second).natAbs (min e f) = _
    simp only [sum, zero, negative]
  refine ⟨_, _, value, fun negative => ?_, ?_⟩
  · by_contra some
    rw [if_neg some] at negative
    cases negative
  · rw [Nat.cast_add, add_mul, aligned_eq (min_le_left e f), aligned_eq (min_le_right e f)]

/-- A sum of magnitudes does not exceed a power of ten that it exceeds by less than half of its last
digit. -/
theorem addAligned_within {n m : Bool} {a b : ℕ} {e f limit : ℤ} (low : limit ≤ 1000)
    (left : n = true → a = 0) (right : m = true → b = 0)
    (bound : (a : ℚ) * 10 ^ e + b * 10 ^ f ≤ 10 ^ limit + 10 ^ (limit - 29)) :
    ∃ total, addAligned n a e m b f = .ok total ∧ total.IsWithin limit := by
  obtain ⟨sign, total, aligned, unsigned, same⟩ := addAligned_eq (e := e) (f := f) left right
  rw [aligned]
  cases sign with
  | true =>
    rw [unsigned rfl]
    refine ⟨_, if_pos rfl, fun _ => rfl, ?_⟩
    rw [Nat.cast_zero, zero_mul]
    positivity
  | false => exact rounded_within low (same.trans_le bound)

/-- A nudged term is far below the last digit of the other one, or what it was. -/
theorem nudge_within {a b : ℕ} {e f limit : ℤ} (some : a ≠ 0)
    (large : (a : ℚ) * 10 ^ e ≤ 10 ^ (limit + 29)) (small : (b : ℚ) * 10 ^ f ≤ 10 ^ limit) :
    ((nudge a e b f).1 : ℚ) * 10 ^ (nudge a e b f).2 ≤ 10 ^ limit := by
  unfold nudge
  dsimp only
  split
  · have first := (zpow_le_zpow_iff_right₀ (by norm_num)).mp ((pow_adjusted_le some e).trans large)
    rw [Nat.cast_one, one_mul]
    refine zpow_le_zpow_right₀ (by norm_num) ?_
    unfold adjusted at first
    unfold precision
    omega
  · exact small

/-- A sum stays within a bound that is far above what is added. -/
theorem add_within {first second : Decimal} {limit : ℤ} (low : limit ≤ 1000)
    (left : first.IsWithin limit) (right : second.IsWithin (limit - 29)) :
    ∃ total, first.add second = .ok total ∧ total.IsWithin limit := by
  cases first with
  | infinite negative => exact left.elim
  | nan negative signaling payload => exact left.elim
  | finite n a e =>
  cases second with
  | infinite negative => exact right.elim
  | nan negative signaling payload => exact right.elim
  | finite m b f =>
  obtain ⟨plus, large⟩ := left
  obtain ⟨plus', small⟩ := right
  have margin : (0 : ℚ) ≤ 10 ^ (limit - 29) := by positivity
  have most : (0 : ℚ) ≤ 10 ^ limit := by positivity
  have free : ∀ exponent : ℤ, ((0 : ℕ) : ℚ) * 10 ^ exponent = 0 := by simp
  unfold add
  dsimp only
  split_ifs with both none none' order
  · refine ⟨_, if_pos rfl, fun _ => rfl, ?_⟩
    rw [free]
    exact most
  · refine addAligned_within low (fun _ => rfl) plus' ?_
    rw [free]
    linarith only [small, most]
  · refine addAligned_within low plus (fun _ => rfl) ?_
    rw [free]
    linarith only [large, margin]
  · refine addAligned_within low plus (fun negative => absurd (plus' negative) none') ?_
    exact add_le_add large (nudge_within none (by rwa [sub_add_cancel]) small)
  · refine addAligned_within low (fun negative => absurd (plus negative) none) plus' ?_
    refine add_le_add (nudge_within none' (small.trans ?_) large) small
    exact zpow_le_zpow_right₀ (by norm_num) (by omega)

end Herald.Decimal
