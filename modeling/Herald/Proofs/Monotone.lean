import Herald.Proofs.Charges

/-! # Rounding keeps the order of amounts

A larger amount is never rounded to a smaller one: not to 28 digits, where every product ends, and
not to the double that a column keeps. Both round to whole steps that grow with what is rounded.
While the step stays the same the nearest steps are in order, and where it grows there is a power of
the base in between that both roundings keep. So a balance that covers an amount covers every
smaller one.
-/

namespace Herald

namespace Number

variable {a b c d step grid : ℕ}

theorem div_le_roundHalfEven (a b : ℕ) : a / b ≤ roundHalfEven a b := by
  unfold roundHalfEven
  dsimp only
  split_ifs <;> omega

theorem roundHalfEven_le_succ_div (a b : ℕ) : roundHalfEven a b ≤ a / b + 1 := by
  unfold roundHalfEven
  dsimp only
  split_ifs <;> omega

theorem div_mono (left : 0 < b) (right : 0 < d) (le : a * d ≤ c * b) : a / b ≤ c / d := by
  rw [Nat.le_div_iff_mul_le right]
  refine Nat.le_of_mul_le_mul_right ?_ left
  calc a / b * d * b = a / b * b * d := by ring
    _ ≤ a * d := Nat.mul_le_mul_right d (Nat.div_mul_le_self a b)
    _ ≤ c * b := le

/-- Quotients that are in order are rounded in order. -/
theorem roundHalfEven_mono (left : 0 < b) (right : 0 < d) (le : a * d ≤ c * b) :
    roundHalfEven a b ≤ roundHalfEven c d := by
  have below : a / b ≤ c / d := div_mono left right le
  rcases below.lt_or_eq with less | same
  · exact (roundHalfEven_le_succ_div a b).trans
      (Nat.le_trans less (div_le_roundHalfEven c d))
  · -- With the same whole part the rests are in order, and a tie goes the same way on both sides.
    have first := Nat.div_add_mod a b
    have second := Nat.div_add_mod c d
    have rests : a % b * d ≤ c % d * b := by
      rw [← first, ← second, same] at le
      nlinarith only [le]
    have doubled : 2 * (a % b) * d ≤ 2 * (c % d) * b := by
      rw [mul_assoc, mul_assoc]
      exact Nat.mul_le_mul_left 2 rests
    have low : 2 * (c % d) < d → 2 * (a % b) < b := by
      intro low
      refine Nat.lt_of_mul_lt_mul_right (a := d) (doubled.trans_lt ?_)
      rw [mul_comm b d]
      exact Nat.mul_lt_mul_of_pos_right low left
    have tied : 2 * (c % d) ≤ d → 2 * (a % b) ≤ b := by
      intro tied
      refine Nat.le_of_mul_le_mul_right (doubled.trans ?_) right
      rw [mul_comm b d]
      exact Nat.mul_le_mul_right b tied
    unfold roundHalfEven
    dsimp only
    rw [same]
    split_ifs <;> omega

/-- A whole number is rounded to itself. -/
theorem roundHalfEven_one (whole : ℕ) : roundHalfEven whole 1 = whole := by
  simp [roundHalfEven, Nat.mod_one]

/-! ## Steps -/

section Steps

variable (positive : 0 < b) (steps : 0 < step) (divides : step ∣ grid)

include positive steps divides

/-- What is at most a number of whole steps is not rounded beyond it. -/
theorem steps_le_of_le (le : a ≤ grid * b) : roundHalfEven a (b * step) * step ≤ grid := by
  obtain ⟨count, rfl⟩ := divides
  rw [mul_comm step count]
  refine Nat.mul_le_mul_right step ((roundHalfEven_mono (Nat.mul_pos positive steps) one_pos ?_).trans
    (roundHalfEven_one count).le)
  calc a * 1 ≤ step * count * b := by rwa [mul_one]
    _ = count * (b * step) := by ring

/-- What is at least a number of whole steps is not rounded below it. -/
theorem le_steps_of_le (le : grid * b ≤ a) : grid ≤ roundHalfEven a (b * step) * step := by
  obtain ⟨count, rfl⟩ := divides
  rw [mul_comm step count]
  refine Nat.mul_le_mul_right step ((roundHalfEven_one count).ge.trans
    (roundHalfEven_mono one_pos (Nat.mul_pos positive steps) ?_))
  calc count * (b * step) = step * count * b := by ring
    _ ≤ a * 1 := by rwa [mul_one]

end Steps

end Number

/-! ## Doubles -/

namespace Binary64

open Number

variable {a b c d : ℕ}

theorem log2_mono (le : a ≤ c) : a.log2 ≤ c.log2 := by
  by_cases none : a = 0
  · rw [none, Nat.log2_zero]
    exact Nat.zero_le _
  · have some : c ≠ 0 := by omega
    exact (Nat.le_log2 some).mpr (((Nat.le_log2 none).mp le_rfl).trans le)

theorem roundUnits_mono (left : 0 < b) (right : 0 < d) (le : a * d ≤ c * b) :
    roundUnits a b ≤ roundUnits c d := by
  have quotients : a / b ≤ c / d := div_mono left right le
  have logs := log2_mono quotients
  have powers : ∀ bits, 0 < twoPow bits := fun bits => Nat.two_pow_pos bits
  unfold roundUnits
  dsimp only
  rcases Nat.lt_or_ge (spacingBits (a / b)) (spacingBits (c / d)) with wider | narrow
  · -- The power of two at which the larger quotient starts lies between the two.
    have longer : (a / b).log2 < (c / d).log2 := by
      unfold spacingBits at wider
      omega
    have many : 53 ≤ (c / d).log2 := by
      unfold spacingBits at wider
      omega
    have some : c / d ≠ 0 := by
      intro none
      rw [none] at many
      exact absurd many (by decide)
    have divides : ∀ bits, bits ≤ (c / d).log2 → twoPow bits ∣ twoPow (c / d).log2 :=
      fun bits le => Nat.pow_dvd_pow 2 le
    have below : a / b < twoPow (c / d).log2 := by
      by_cases none : a / b = 0
      · rw [none]
        exact powers _
      · exact (Nat.log2_lt none).mp longer
    have above : twoPow (c / d).log2 ≤ c / d := (Nat.le_log2 some).mp le_rfl
    refine (steps_le_of_le left (powers _) (divides _ ?_) ?_).trans
      (le_steps_of_le right (powers _) (divides _ ?_) ?_)
    · unfold spacingBits
      omega
    · exact ((Nat.div_lt_iff_lt_mul left).mp below).le
    · unfold spacingBits
      omega
    · exact (Nat.le_div_iff_mul_le right).mp above
  · have same : spacingBits (c / d) = spacingBits (a / b) := by
      unfold spacingBits at narrow ⊢
      omega
    rw [same]
    refine Nat.mul_le_mul_right _ (roundHalfEven_mono (Nat.mul_pos left (powers _))
      (Nat.mul_pos right (powers _)) ?_)
    calc a * (d * twoPow (spacingBits (a / b))) = a * d * twoPow (spacingBits (a / b)) := by ring
      _ ≤ c * b * twoPow (spacingBits (a / b)) := Nat.mul_le_mul_right _ le
      _ = c * (b * twoPow (spacingBits (a / b))) := by ring

/-- The nearest doubles of magnitudes that are in order are in order. -/
theorem ofUnits_mono (left : 0 < b) (right : 0 < d) (le : a * d ≤ c * b) :
    (ofUnits false a b).le (ofUnits false c d) = true := by
  have units := roundUnits_mono left right le
  unfold ofUnits
  dsimp only
  split_ifs with small large
  · simpa [Binary64.le, signedUnits] using units
  · rfl
  · omega
  · rfl

/-- A double that is not below zero. -/
def IsUnsigned (double : Binary64) : Prop :=
  (∃ units, double = .finite false units) ∨ double = .infinite false

theorem IsUnsigned.zero_le {double : Binary64} (unsigned : double.IsUnsigned) :
    (finite false 0).le double = true := by
  rcases unsigned with ⟨units, rfl⟩ | rfl
  · simp [Binary64.le, signedUnits]
  · rfl

theorem IsUnsigned.le_infinite {double : Binary64} (unsigned : double.IsUnsigned) :
    double.le (.infinite false) = true := by
  rcases unsigned with ⟨units, rfl⟩ | rfl <;> rfl

theorem isUnsigned_ofUnits (a b : ℕ) : (ofUnits false a b).IsUnsigned := by
  by_cases small : roundUnits a b < overflowUnits
  · exact .inl ⟨roundUnits a b, by simp only [ofUnits, small, ↓reduceIte]⟩
  · exact .inr (by simp only [ofUnits, small, ↓reduceIte])

theorem isUnsigned_ofScientific (coefficient : ℕ) (exponent : ℤ) :
    (ofScientific false coefficient exponent).IsUnsigned := by
  unfold ofScientific
  dsimp only
  split_ifs
  · exact .inl ⟨0, rfl⟩
  · exact .inr rfl
  · exact .inl ⟨0, rfl⟩
  · exact isUnsigned_ofUnits _ _
  · exact isUnsigned_ofUnits _ _

/-- Within the range of doubles a decimal is rounded as the quotient of units that it is. -/
theorem ofScientific_eq {coefficient : ℕ} {exponent : ℤ} (some : coefficient ≠ 0)
    (high : ¬ 310 < exponent + digitCount coefficient)
    (low : ¬ exponent + digitCount coefficient < -330) :
    ∃ numerator denominator : ℕ, 0 < denominator ∧
      ofScientific false coefficient exponent = ofUnits false numerator denominator ∧
        (numerator : ℚ) =
          coefficient * 10 ^ exponent * (twoPow unitBits : ℕ) * denominator := by
  simp only [ofScientific, some, high, low, ↓reduceIte]
  split
  · rename_i whole
    refine ⟨_, 1, one_pos, rfl, ?_⟩
    have power : ((tenPow exponent.toNat : ℕ) : ℚ) = 10 ^ exponent := by
      change ((10 ^ exponent.toNat : ℕ) : ℚ) = _
      rw [Nat.cast_pow, Nat.cast_ofNat, ← zpow_natCast, Int.toNat_of_nonneg whole]
    rw [Nat.cast_mul, Nat.cast_mul, power, Nat.cast_one, mul_one]
  · rename_i fraction
    refine ⟨_, tenPow exponent.natAbs, Nat.pow_pos (by norm_num), rfl, ?_⟩
    have power : (10 : ℚ) ^ exponent * (tenPow exponent.natAbs : ℕ) = 1 := by
      change (10 : ℚ) ^ exponent * ((10 ^ exponent.natAbs : ℕ) : ℚ) = 1
      rw [Nat.cast_pow, Nat.cast_ofNat, ← zpow_natCast, Int.natCast_natAbs,
        abs_of_neg (Int.not_le.mp fraction), ← zpow_add₀ (by norm_num), add_neg_cancel, zpow_zero]
    rw [Nat.cast_mul]
    calc (coefficient : ℚ) * (twoPow unitBits : ℕ)
        = coefficient * (10 ^ exponent * (tenPow exponent.natAbs : ℕ)) * (twoPow unitBits : ℕ) := by
          rw [power, mul_one]
      _ = _ := by ring

/-- The nearest doubles of decimals that are in order are in order. -/
theorem ofScientific_mono {exponent lower : ℤ} (le : (a : ℚ) * 10 ^ exponent ≤ c * 10 ^ lower) :
    (ofScientific false a exponent).le (ofScientific false c lower) = true := by
  by_cases none : a = 0
  · have zero : ofScientific false a exponent = .finite false 0 := by
      simp only [ofScientific, none, ↓reduceIte]
    rw [zero]
    exact (isUnsigned_ofScientific c lower).zero_le
  have least : (10 : ℚ) ^ Decimal.adjusted a exponent ≤ c * 10 ^ lower :=
    (Decimal.pow_adjusted_le none exponent).trans le
  have some : c ≠ 0 := by
    rintro rfl
    rw [Nat.cast_zero, zero_mul] at least
    exact absurd least (not_le.mpr (by positivity))
  have digits : Decimal.adjusted a exponent < Decimal.adjusted c lower + 1 :=
    (zpow_lt_zpow_iff_right₀ (by norm_num)).mp
      (least.trans_lt (Decimal.lt_pow_adjusted c lower))
  unfold Decimal.adjusted at digits
  by_cases large : 310 < lower + digitCount c
  · have infinite : ofScientific false c lower = .infinite false := by
      simp only [ofScientific, some, large, ↓reduceIte]
    rw [infinite]
    exact (isUnsigned_ofScientific a exponent).le_infinite
  have few : ¬ 310 < exponent + digitCount a := by omega
  by_cases small : exponent + digitCount a < -330
  · have zero : ofScientific false a exponent = .finite false 0 := by
      simp only [ofScientific, none, few, small, ↓reduceIte]
    rw [zero]
    exact (isUnsigned_ofScientific c lower).zero_le
  obtain ⟨m, n, left, same, first⟩ := ofScientific_eq none few small
  have notSmall : ¬ lower + digitCount c < -330 := by omega
  obtain ⟨k, l, right, other, second⟩ := ofScientific_eq some large notSmall
  rw [same, other]
  refine ofUnits_mono left right ?_
  have ratios : (m : ℚ) * l ≤ k * n := by
    rw [first, second]
    generalize twoPow unitBits = unit
    calc (a : ℚ) * 10 ^ exponent * unit * n * l
        = a * 10 ^ exponent * (unit * n * l) := by ring
      _ ≤ c * 10 ^ lower * (unit * n * l) := by gcongr
      _ = c * 10 ^ lower * unit * l * n := by ring
  exact_mod_cast ratios

/-- What covers a larger amount covers a smaller one. -/
theorem le_trans_of_isUnsigned {small large balance : Binary64} (unsigned : small.IsUnsigned)
    (le : small.le large = true) (covers : large.le balance = true) :
    small.le balance = true := by
  rcases unsigned with ⟨units, rfl⟩ | rfl
  · cases large with
    | nan => cases le
    | infinite negative =>
      have above : negative = false := by simpa [Binary64.le] using le
      subst above
      cases balance with
      | infinite negative => simpa [Binary64.le] using covers
      | _ => cases covers
    | finite sign larger =>
      cases balance with
      | nan => cases covers
      | infinite negative => exact covers
      | finite negative rest =>
        simp only [Binary64.le, decide_eq_true_eq] at le covers ⊢
        exact le.trans covers
  · cases large with
    | infinite negative =>
      have above : negative = false := by simpa [Binary64.le] using le
      subst above
      exact covers
    | _ => cases le

end Binary64

/-! ## Decimals -/

namespace Decimal

open Number

variable {a c : ℕ} {exponent : ℤ}

theorem dropDigits_eq (coefficient places : ℕ) :
    dropDigits coefficient places = roundHalfEven coefficient (10 ^ places) := by
  unfold dropDigits
  split
  · rename_i fewer
    have below := lt_pow_digitCount coefficient
    have tenth : 10 * 10 ^ digitCount coefficient ≤ 10 ^ places := by
      rw [mul_comm, ← pow_succ]
      exact Nat.pow_le_pow_right (by norm_num) fewer
    unfold roundHalfEven
    rw [Nat.div_eq_of_lt (by omega), Nat.mod_eq_of_lt (by omega)]
    dsimp only
    split_ifs <;> omega
  · rfl

/-- What is kept of a larger coefficient, at its own places, is not smaller. -/
theorem kept_mono (le : a ≤ c) (exponent : ℤ) :
    dropDigits a (excess a exponent) * 10 ^ excess a exponent ≤
      dropDigits c (excess c exponent) * 10 ^ excess c exponent := by
  have digits : digitCount a ≤ digitCount c :=
    (digitCount_le_iff (digitCount_pos c)).mpr (le.trans_lt (lt_pow_digitCount c))
  have powers : ∀ places, 0 < 10 ^ places := fun places => Nat.pow_pos (by norm_num)
  rw [dropDigits_eq, dropDigits_eq, ← one_mul (10 ^ excess a exponent),
    ← one_mul (10 ^ excess c exponent)]
  rcases Nat.lt_or_ge (excess a exponent) (excess c exponent) with wider | narrow
  · -- The power of ten at which the larger coefficient starts lies between the two.
    have fewer : digitCount a < digitCount c ∧ excess c exponent ≤ digitCount c - 1 := by
      have positive := digitCount_pos c
      unfold excess precision at wider ⊢
      omega
    have some : c ≠ 0 := by
      rintro rfl
      exact absurd (Nat.le_zero.mp le ▸ fewer.1) (lt_irrefl _)
    have divides : ∀ places, places ≤ digitCount c - 1 → 10 ^ places ∣ 10 ^ (digitCount c - 1) :=
      fun places few => Nat.pow_dvd_pow 10 few
    have below : a ≤ 10 ^ (digitCount c - 1) :=
      (lt_pow_digitCount a).le.trans (Nat.pow_le_pow_right (by norm_num) (by omega))
    have above : 10 ^ (digitCount c - 1) ≤ c := pow_le_of_digitCount some
    have first := steps_le_of_le (a := a) one_pos (powers (excess a exponent))
      (divides _ (by omega)) (below.trans_eq (mul_one _).symm)
    have second := le_steps_of_le (a := c) one_pos (powers (excess c exponent))
      (divides _ fewer.2) ((mul_one _).trans_le above)
    simpa only [one_mul] using first.trans second
  · have same : excess c exponent = excess a exponent := by
      unfold excess at narrow ⊢
      omega
    rw [same]
    refine Nat.mul_le_mul_right _ (roundHalfEven_mono (Nat.mul_pos one_pos (powers _))
      (Nat.mul_pos one_pos (powers _)) (Nat.mul_le_mul_right _ le))

/-- An amount that is not below zero is at most another one; infinities are at most each other. -/
inductive AtMost : Decimal → Decimal → Prop
  | finite {less more : ℕ} {low high : ℤ} (le : (less : ℚ) * 10 ^ low ≤ more * 10 ^ high) :
      AtMost (.finite false less low) (.finite false more high)
  | infinite : AtMost (.infinite false) (.infinite false)

theorem rounded_mono {small large : Decimal} (le : a ≤ c)
    (first : rounded false a exponent = .ok small)
    (second : rounded false c exponent = .ok large) : small.AtMost large := by
  obtain ⟨kept, low, rfl, small⟩ := rounded_ok first
  obtain ⟨more, high, rfl, large⟩ := rounded_ok second
  refine .finite ?_
  have split : ∀ places : ℕ, (10 : ℚ) ^ (exponent + places) = 10 ^ places * 10 ^ exponent := by
    intro places
    rw [zpow_add₀ (by norm_num), zpow_natCast, mul_comm]
  rw [small, large, split, split, ← mul_assoc, ← mul_assoc]
  refine mul_le_mul_of_nonneg_right ?_ (by positivity)
  exact_mod_cast kept_mono le exponent

/-- An amount above zero. -/
def IsPositive (amount : Decimal) : Prop := amount.order? .zero = some .gt

theorem IsPositive.cases {amount : Decimal} (positive : amount.IsPositive) :
    (∃ coefficient exponent, coefficient ≠ 0 ∧ amount = .finite false coefficient exponent) ∨
      amount = .infinite false := by
  unfold IsPositive at positive
  cases amount with
  | nan negative signaling payload => cases positive
  | infinite negative =>
    cases negative with
    | false => exact .inr rfl
    | true => cases positive
  | finite negative coefficient exponent =>
    refine .inl ⟨coefficient, exponent, ?_⟩
    simp only [order?, zero] at positive
    by_cases none : coefficient = 0
    · simp [none] at positive
    · cases negative with
      | false => exact ⟨none, rfl⟩
      | true => simp [none] at positive

theorem AtMost.not_isZero {small large : Decimal} (le : small.AtMost large)
    (positive : small.IsPositive) : ¬ large.isZero = true := by
  cases le with
  | infinite => exact Bool.false_ne_true
  | @finite less more _ _ le =>
    rcases positive.cases with ⟨_, _, some, ⟨⟩⟩ | same
    · intro zero
      have none : more = 0 := by simpa only [isZero, beq_iff_eq] using zero
      rw [none, Nat.cast_zero, zero_mul] at le
      have least : (0 : ℚ) < less := Nat.cast_pos.mpr (Nat.pos_of_ne_zero some)
      exact absurd le (not_le.mpr (by positivity))
    · cases same

theorem IsPositive.atMost_self {amount : Decimal} (positive : amount.IsPositive) :
    amount.AtMost amount := by
  rcases positive.cases with ⟨_, _, _, rfl⟩ | rfl
  · exact .finite le_rfl
  · exact .infinite

end Decimal

/-- Some segments cost at least what one segment costs. -/
theorem Sms.segmentCost_atMost {count : ℕ} {price unit cost : Decimal} (some : 0 < count)
    (positive : price.IsPositive) (single : segmentCost 1 price = .ok unit)
    (ok : segmentCost count price = .ok cost) : unit.AtMost cost := by
  rcases positive.cases with ⟨coefficient, exponent, _, rfl⟩ | rfl
  · refine Decimal.rounded_mono (a := 1 * coefficient) (c := count * coefficient)
      (Nat.mul_le_mul_right coefficient some) single ?_
    have unsigned : ¬ (count : ℤ) < 0 := by omega
    simpa [segmentCost, Decimal.mul, Decimal.ofInt, unsigned] using ok
  · have counts : count ≠ 0 := by omega
    have unsigned : ¬ (count : ℤ) < 0 := by omega
    cases single
    simp [segmentCost, Decimal.mul, Decimal.ofInt, unsigned, counts] at ok
    subst ok
    exact Decimal.AtMost.infinite

end Herald
