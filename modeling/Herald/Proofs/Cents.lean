import Mathlib.Algebra.Order.Field.Power
import Mathlib.Tactic.FieldSimp
import Mathlib.Tactic.Linarith
import Mathlib.Tactic.NormNum
import Mathlib.Tactic.Ring
import Herald.Proofs.Exact
import Herald.Sms

/-! # Whole cents

Amounts that are whole cents stay so. A product may have more digits than a decimal keeps, but what
it loses is far above a cent; a sum below `10 ^ 26` loses nothing at all. So what is counted in
decimals of 28 digits is exact as long as it can be paid.
-/

namespace Herald.Decimal

open Number

/-- A finite amount of so many cents. -/
structure IsCents (amount : Decimal) (cents : ℤ) : Prop where
  finite : amount.isFinite = true
  ratio_eq : amount.ratio = cents / 100

theorem isCents_zero : zero.IsCents 0 := ⟨rfl, by simp [zero, ratio]⟩

/-- An amount of cents is a number of them in a sign, digits and a power of ten. -/
theorem IsCents.digits {amount : Decimal} {cents : ℤ} (is : amount.IsCents cents) :
    ∃ negative coefficient exponent, amount = .finite negative coefficient exponent ∧
      (coefficient : ℚ) * 10 ^ exponent = cents.natAbs / 100 := by
  cases amount with
  | infinite negative => exact absurd is.finite Bool.false_ne_true
  | nan negative signaling payload => exact absurd is.finite Bool.false_ne_true
  | finite negative coefficient exponent =>
    refine ⟨negative, coefficient, exponent, rfl, ?_⟩
    have magnitude : (0 : ℚ) ≤ coefficient * 10 ^ exponent := by positivity
    have same := congrArg abs is.ratio_eq
    rw [ratio, mul_assoc, abs_mul, abs_of_nonneg magnitude, abs_div, ← Int.cast_abs,
      Int.abs_eq_natAbs, Int.cast_natCast] at same
    cases negative <;> simpa using same

/-! ## Digits -/

theorem digitCount_le_iff {number places : ℕ} (positive : 0 < places) :
    digitCount number ≤ places ↔ number < 10 ^ places :=
  Nat.length_toDigits_le_iff (by norm_num) positive

theorem digitCount_pos (number : ℕ) : 0 < digitCount number := Nat.length_toDigits_pos

theorem lt_pow_digitCount (number : ℕ) : number < 10 ^ digitCount number :=
  (digitCount_le_iff (digitCount_pos number)).mp le_rfl

theorem pow_le_of_digitCount {number : ℕ} (some : number ≠ 0) :
    10 ^ (digitCount number - 1) ≤ number := by
  rcases Nat.eq_zero_or_pos (digitCount number - 1) with one | more
  · rw [one, pow_zero]
    exact Nat.one_le_iff_ne_zero.mpr some
  · by_contra less
    have fewer := (digitCount_le_iff more).mpr (Nat.lt_of_not_le less)
    omega

/-- The first digit of a number says how large it is. -/
theorem pow_adjusted_le {coefficient : ℕ} (some : coefficient ≠ 0) (exponent : ℤ) :
    (10 : ℚ) ^ adjusted coefficient exponent ≤ coefficient * 10 ^ exponent := by
  have positive := digitCount_pos coefficient
  have split : adjusted coefficient exponent = ((digitCount coefficient - 1 : ℕ) : ℤ) + exponent := by
    unfold adjusted
    omega
  rw [split, zpow_add₀ (by norm_num), zpow_natCast]
  gcongr
  exact_mod_cast pow_le_of_digitCount some

theorem lt_pow_adjusted (coefficient : ℕ) (exponent : ℤ) :
    (coefficient : ℚ) * 10 ^ exponent < 10 ^ (adjusted coefficient exponent + 1) := by
  have split : adjusted coefficient exponent + 1 = (digitCount coefficient : ℤ) + exponent := by
    unfold adjusted
    omega
  rw [split, zpow_add₀ (by norm_num), zpow_natCast]
  gcongr
  exact_mod_cast lt_pow_digitCount coefficient

/-- A quotient without rest is not rounded. -/
theorem roundHalfEven_mul (whole : ℕ) {denominator : ℕ} (some : 0 < denominator) :
    roundHalfEven (whole * denominator) denominator = whole := by
  simp only [roundHalfEven, Nat.mul_mod_left, Nat.mul_div_cancel _ some, mul_zero, some, ↓reduceIte]

/-- Dropping digits that are zeros is exact. -/
theorem dropDigits_mul (kept places : ℕ) : dropDigits (kept * 10 ^ places) places = kept := by
  unfold dropDigits
  split
  · rename_i fewer
    rcases Nat.eq_zero_or_pos kept with rfl | some
    · rfl
    · have less := (digitCount_le_iff (Nat.lt_of_le_of_lt (Nat.zero_le _) fewer)).mp fewer.le
      exact absurd less (Nat.not_lt.mpr (Nat.le_mul_of_pos_left _ some))
  · exact roundHalfEven_mul kept (Nat.pow_pos (by norm_num))

/-! ## Rounding -/

/-- How many digits a result drops. -/
def excess (coefficient : ℕ) (exponent : ℤ) : ℕ :=
  (max (max 0 ((digitCount coefficient : ℤ) - precision)) (bottomExponent - exponent)).toNat

/-- Rounding keeps the sign and drops the digits in excess. -/
theorem rounded_ok {negative : Bool} {coefficient : ℕ} {exponent : ℤ} {result : Decimal}
    (ok : rounded negative coefficient exponent = .ok result) :
    ∃ kept lower, result = .finite negative kept lower ∧
      (kept : ℚ) * 10 ^ lower = (dropDigits coefficient (excess coefficient exponent) : ℕ) *
        10 ^ (exponent + excess coefficient exponent) := by
  unfold rounded at ok
  split at ok
  · rename_i none
    cases ok
    refine ⟨0, _, rfl, ?_⟩
    have nothing : dropDigits 0 (excess 0 exponent) = 0 := by
      simpa only [zero_mul] using dropDigits_mul 0 (excess 0 exponent)
    simp only [none, nothing, Nat.cast_zero, zero_mul]
  · split at ok
    · cases ok
    · dsimp only at ok
      split at ok
      · rename_i short
        cases ok
        have nothing : excess coefficient exponent = 0 := Int.toNat_eq_zero.mpr short
        have whole : dropDigits coefficient 0 = coefficient := by
          simpa only [pow_zero, mul_one] using dropDigits_mul coefficient 0
        exact ⟨coefficient, exponent, rfl, by rw [nothing, whole, Nat.cast_zero, add_zero]⟩
      · rename_i long
        have dropped : ((excess coefficient exponent : ℕ) : ℤ) =
            max (max 0 ((digitCount coefficient : ℤ) - precision)) (bottomExponent - exponent) :=
          Int.toNat_of_nonneg (not_le.mp long).le
        rw [← dropped] at ok
        split at ok
        · rename_i carries
          split at ok
          · cases ok
          · cases ok
            refine ⟨_, _, rfl, ?_⟩
            rw [Int.toNat_natCast] at carries
            rw [carries, zpow_add_one₀ (by norm_num)]
            change ((10 ^ 27 : ℕ) : ℚ) * _ = ((10 ^ 28 : ℕ) : ℚ) * _
            push_cast
            ring
        · cases ok
          exact ⟨_, _, rfl, by rw [Int.toNat_natCast]⟩

/-- Digits below a cent are zeros. -/
theorem digits_below {coefficient cents places : ℕ}
    (counts : (coefficient : ℚ) * 10 ^ (-2 - places : ℤ) = cents / 100) :
    coefficient = cents * 10 ^ places := by
  have power : (10 : ℚ) ^ (-2 - places : ℤ) = 1 / 100 / 10 ^ places := by
    rw [zpow_sub₀ (by norm_num), zpow_natCast]
    norm_num
  have positive : (0 : ℚ) < 10 ^ places := by positivity
  have same : (coefficient : ℚ) = cents * 10 ^ places := by
    rw [power] at counts
    field_simp at counts
    linarith only [counts]
  exact_mod_cast same

/-- Digits that are dropped below a cent are zeros, so dropping them is exact. -/
theorem dropped_below {coefficient cents places : ℕ} {exponent : ℤ}
    (counts : (coefficient : ℚ) * 10 ^ exponent = cents / 100) (below : exponent + places ≤ -2) :
    coefficient = dropDigits coefficient places * 10 ^ places := by
  obtain ⟨rest, exponent_eq⟩ : ∃ rest : ℕ, exponent = -2 - ((rest + places : ℕ) : ℤ) :=
    ⟨(-2 - exponent - places).toNat, by omega⟩
  rw [exponent_eq] at counts
  have split : coefficient = cents * 10 ^ rest * 10 ^ places := by
    rw [digits_below counts, pow_add, mul_assoc]
  rw [split, dropDigits_mul]

/-- What dropped digits leave is the same number when they are zeros. -/
theorem shifted_eq {coefficient kept places : ℕ} (same : coefficient = kept * 10 ^ places)
    (exponent : ℤ) : (kept : ℚ) * 10 ^ (exponent + places) = coefficient * 10 ^ exponent := by
  rw [same, zpow_add₀ (by norm_num), zpow_natCast]
  push_cast
  ring

/-- Rounding takes whole cents to whole cents, however many. -/
theorem rounded_cents {negative : Bool} {coefficient cents : ℕ} {exponent : ℤ} {result : Decimal}
    (ok : rounded negative coefficient exponent = .ok result)
    (counts : (coefficient : ℚ) * 10 ^ exponent = cents / 100) : ∃ cents, result.IsCents cents := by
  obtain ⟨kept, lower, rfl, same⟩ := rounded_ok ok
  have whole : ∃ cents : ℕ, (kept : ℚ) * 10 ^ lower = cents / 100 := by
    rw [same]
    by_cases below : exponent + excess coefficient exponent ≤ -2
    · exact ⟨cents, (shifted_eq (dropped_below counts below) exponent).trans counts⟩
    · obtain ⟨places, above⟩ : ∃ places : ℕ, exponent + excess coefficient exponent = places + -2 :=
        ⟨(exponent + excess coefficient exponent + 2).toNat, by omega⟩
      refine ⟨dropDigits coefficient (excess coefficient exponent) * 10 ^ places, ?_⟩
      rw [above, zpow_add₀ (by norm_num), zpow_natCast]
      push_cast
      ring
  obtain ⟨cents, whole⟩ := whole
  refine ⟨if negative then -cents else cents, rfl, ?_⟩
  rw [ratio, mul_assoc, whole]
  cases negative <;> simp [neg_div]

/-- A product of whole cents is whole cents. -/
theorem mul_cents {count : ℕ} {price cost : Decimal} {cents : ℤ} (is : price.IsCents cents)
    (ok : mul (.ofInt count) price = .ok cost) : ∃ cents, cost.IsCents cents := by
  obtain ⟨negative, coefficient, exponent, rfl, counts⟩ := is.digits
  have product : ((count * coefficient : ℕ) : ℚ) * 10 ^ (0 + exponent) =
      (count * cents.natAbs : ℕ) / 100 := by
    push_cast
    rw [zero_add, mul_assoc, counts, mul_div_assoc]
  exact rounded_cents ok product

/-! ## Sums -/

/-- How many cents a decimal counts exactly. -/
def countable : ℕ := 10 ^ precision

/-- The first digit of an amount that can be counted exactly. -/
theorem adjusted_bounds {coefficient cents : ℕ} {exponent : ℤ} (some : coefficient ≠ 0)
    (counts : (coefficient : ℚ) * 10 ^ exponent = cents / 100) (few : cents < countable) :
    -2 ≤ adjusted coefficient exponent ∧ adjusted coefficient exponent ≤ 25 := by
  have least := pow_adjusted_le some exponent
  have most := lt_pow_adjusted coefficient exponent
  rw [counts] at least most
  have bound : (cents : ℚ) < 10 ^ 28 := by exact_mod_cast few
  have cent : (1 : ℚ) ≤ cents := by
    have positive : (0 : ℚ) < cents / 100 := by
      rw [← counts]
      positivity
    exact_mod_cast (by simpa using positive : 0 < cents)
  constructor
  · have below : (10 : ℚ) ^ (-2 : ℤ) < 10 ^ (adjusted coefficient exponent + 1) := by
      refine lt_of_le_of_lt ?_ most
      norm_num
      linarith
    have order := (zpow_lt_zpow_iff_right₀ (by norm_num)).mp below
    omega
  · have limit : (10 : ℚ) ^ (26 : ℤ) = 10 ^ 28 / 100 := by norm_num
    have above : (10 : ℚ) ^ adjusted coefficient exponent < 10 ^ (26 : ℤ) := by
      rw [limit]
      exact lt_of_le_of_lt least (div_lt_div_of_pos_right bound (by norm_num))
    have order := (zpow_lt_zpow_iff_right₀ (by norm_num)).mp above
    omega

/-- Rounding loses nothing of an amount that can be counted exactly. -/
theorem rounded_exact {coefficient cents : ℕ} {exponent : ℤ} (negative : Bool)
    (counts : (coefficient : ℚ) * 10 ^ exponent = cents / 100) (few : cents < countable) :
    ∃ kept lower, rounded negative coefficient exponent = .ok (.finite negative kept lower) ∧
      (kept : ℚ) * 10 ^ lower = cents / 100 := by
  by_cases none : coefficient = 0
  · refine ⟨0, max bottomExponent (min topExponent exponent), if_pos none, ?_⟩
    rw [← counts, none, Nat.cast_zero, zero_mul, zero_mul]
  obtain ⟨above, below⟩ := adjusted_bounds none counts few
  have fits : ¬ topExponent < adjusted coefficient exponent := by
    unfold topExponent
    omega
  unfold adjusted at above below
  unfold rounded
  rw [if_neg none, if_neg fits]
  dsimp only
  split
  · exact ⟨coefficient, exponent, rfl, counts⟩
  · rename_i long
    generalize excess_eq : max (max 0 ((digitCount coefficient : ℤ) - precision))
      (bottomExponent - exponent) = shift at long ⊢
    obtain ⟨places, rfl⟩ : ∃ places : ℕ, shift = places := ⟨shift.toNat, by omega⟩
    rw [Int.toNat_natCast]
    have small : exponent + places ≤ -2 ∧ digitCount coefficient ≤ 28 + places := by
      unfold bottomExponent precision at excess_eq
      omega
    have same := dropped_below counts small.1
    have short : dropDigits coefficient places ≠ tenPow precision := by
      intro carries
      have less := (digitCount_le_iff (by omega)).mp small.2
      rw [same, carries, pow_add] at less
      exact absurd less (lt_irrefl _)
    rw [if_neg short]
    exact ⟨_, _, rfl, (shifted_eq same exponent).trans counts⟩

/-- A sum of magnitudes that can be counted exactly loses nothing. -/
theorem addAligned_exact {n m : Bool} {a b cents : ℕ} {e f : ℤ}
    (counts : (finite n a e).ratio + (finite m b f).ratio = cents / 100)
    (few : cents < countable) : ∃ total, addAligned n a e m b f = .ok total ∧
      total.IsCents cents := by
  let base := min e f
  let left : ℤ := a * tenPow (e - base).toNat
  let right : ℤ := b * tenPow (f - base).toNat
  let sum := (if n then -left else left) + (if m then -right else right)
  have aligned : ∀ (digits : ℕ) (exponent : ℤ), base ≤ exponent →
      ((digits * tenPow (exponent - base).toNat : ℤ) : ℚ) * 10 ^ base = digits * 10 ^ exponent := by
    intro digits exponent above
    obtain ⟨places, exponent_eq⟩ : ∃ places : ℕ, exponent = base + places :=
      ⟨(exponent - base).toNat, by omega⟩
    have power : tenPow places = 10 ^ places := rfl
    rw [exponent_eq, add_sub_cancel_left, Int.toNat_natCast, zpow_add₀ (by norm_num), zpow_natCast,
      power]
    push_cast
    ring
  have value : (sum : ℚ) * 10 ^ base = cents / 100 := by
    rw [← counts, ratio, ratio, mul_assoc, mul_assoc, ← aligned a e (min_le_left e f),
      ← aligned b f (min_le_right e f)]
    cases n <;> cases m <;> simp [sum, left, right] <;> ring
  have positive : 0 ≤ sum := by
    have power : (0 : ℚ) < 10 ^ base := by positivity
    have product : (0 : ℚ) ≤ sum * 10 ^ base := by
      rw [value]
      positivity
    exact_mod_cast nonneg_of_mul_nonneg_left product power
  have magnitude : (sum.natAbs : ℚ) = sum := by
    rw [← Int.cast_natCast, Int.natAbs_of_nonneg positive]
  have counted : (sum.natAbs : ℚ) * 10 ^ base = cents / 100 := by rw [magnitude, value]
  obtain ⟨kept, lower, ok, exact⟩ :=
    rounded_exact (if sum = 0 then n && m else decide (sum < 0)) counted few
  refine ⟨_, ok, rfl, ?_⟩
  rw [ratio, mul_assoc, exact]
  by_cases nothing : sum = 0
  · have free : ((cents : ℚ) / 100) = 0 := by rw [← value, nothing, Int.cast_zero, zero_mul]
    simp only [Int.cast_natCast, free, mul_zero]
  · have plus : decide (sum < 0) = false := decide_eq_false (not_lt.mpr positive)
    simp [nothing, plus]

/-- Beside an amount that can be counted exactly, cents are too large to be nudged. -/
theorem nudge_eq {a b large small : ℕ} {e f : ℤ} (someLarge : a ≠ 0) (someSmall : b ≠ 0)
    (countsLarge : (a : ℚ) * 10 ^ e = large / 100) (countsSmall : (b : ℚ) * 10 ^ f = small / 100)
    (fewLarge : large < countable) (fewSmall : small < countable) : nudge a e b f = (b, f) := by
  have top := (adjusted_bounds someLarge countsLarge fewLarge).2
  have bottom := (adjusted_bounds someSmall countsSmall fewSmall).1
  have near : ¬ adjusted b f < e + min (-1) ((digitCount a : ℤ) - precision - 2) := by
    unfold adjusted at top
    unfold precision
    omega
  exact if_neg near

/-- A sum of cents that can be counted exactly loses nothing. -/
theorem add_cents {first second : Decimal} {m n : ℕ} (left : first.IsCents m)
    (right : second.IsCents n) (few : m + n < countable) :
    ∃ total, first.add second = .ok total ∧ total.IsCents (m + n : ℕ) := by
  obtain ⟨negative, a, e, rfl, countsLeft⟩ := left.digits
  obtain ⟨negative', b, f, rfl, countsRight⟩ := right.digits
  rw [Int.natAbs_natCast] at countsLeft countsRight
  have counts : (finite negative a e).ratio + (finite negative' b f).ratio = (m + n : ℕ) / 100 := by
    rw [left.ratio_eq, right.ratio_eq]
    push_cast
    ring
  have zero : ∀ sign exponent exponent', (finite sign 0 exponent).ratio =
      (finite sign 0 exponent').ratio := by
    intro sign exponent exponent'
    simp only [ratio, Nat.cast_zero, mul_zero, zero_mul]
  unfold add
  dsimp only
  by_cases none : a = 0
  · subst none
    by_cases none : b = 0
    · subst none
      refine ⟨_, if_pos ⟨rfl, rfl⟩, rfl, ?_⟩
      rw [Int.cast_natCast, ← counts]
      simp only [ratio, Nat.cast_zero, mul_zero, zero_mul, add_zero]
    · simp only [none, and_false, ↓reduceIte]
      rw [zero negative e (max (min e f) (f - precision - 1))] at counts
      exact addAligned_exact counts few
  · by_cases none' : b = 0
    · subst none'
      simp only [none, false_and, ↓reduceIte]
      rw [zero negative' f (max (min e f) (e - precision - 1))] at counts
      exact addAligned_exact counts few
    · simp only [none, none', false_and, ↓reduceIte]
      have fewLeft : m < countable := by omega
      have fewRight : n < countable := by omega
      split
      · rw [nudge_eq none none' countsLeft countsRight fewLeft fewRight]
        exact addAligned_exact counts few
      · rw [nudge_eq none' none countsRight countsLeft fewRight fewLeft]
        exact addAligned_exact counts few

end Herald.Decimal
