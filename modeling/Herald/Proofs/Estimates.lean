import Herald.Forecast
import Herald.Proofs.Magnitudes
import Herald.Proofs.Monotone

/-! # Estimates

A pre-flight check estimates what a pass costs from the length of the raw template, in decimals of
28 digits. Whatever a text message loses on its way to its recipient only makes it shorter, and what
an estimate loses is far above what a balance can hold: as many cents as are due are in it, as far
as a decimal counts them.
-/

namespace Herald

/-! ## Decimals that are not too small -/

namespace Decimal

open Number

/-- A finite amount that is not below zero and at least so many cents. -/
def IsAtLeast (cents : ℕ) : Decimal → Prop
  | .finite negative coefficient exponent =>
    (negative = true → coefficient = 0) ∧ (cents : ℚ) / 100 ≤ coefficient * 10 ^ exponent
  | _ => False

variable {cents more : ℕ}

theorem isAtLeast_zero : zero.IsAtLeast 0 := ⟨fun _ => rfl, by simp⟩

theorem IsAtLeast.ratio {amount : Decimal} (least : amount.IsAtLeast cents) :
    amount.isFinite = true ∧ (cents : ℚ) / 100 ≤ amount.ratio := by
  cases amount with
  | infinite negative => exact least.elim
  | nan negative signaling payload => exact least.elim
  | finite negative coefficient exponent =>
    refine ⟨rfl, least.2.trans ?_⟩
    cases negative with
    | false => simp [Decimal.ratio]
    | true => simp [Decimal.ratio, least.1 rfl]

/-- Cents that are not below zero are in an amount without a sign. -/
theorem IsCents.unsigned {amount : Decimal} (is : amount.IsCents cents) :
    ∃ negative coefficient exponent, amount = .finite negative coefficient exponent ∧
      (negative = true → coefficient = 0) ∧ (coefficient : ℚ) * 10 ^ exponent = cents / 100 := by
  obtain ⟨negative, coefficient, exponent, rfl, counts⟩ := is.digits
  rw [Int.natAbs_natCast] at counts
  refine ⟨negative, coefficient, exponent, rfl, ?_, counts⟩
  rintro rfl
  have same := is.ratio_eq
  have power : (10 : ℚ) ^ exponent ≠ 0 := by positivity
  have none : (coefficient : ℚ) * 10 ^ exponent = 0 := by
    simp only [Decimal.ratio, ↓reduceIte, Int.cast_natCast] at same
    linarith
  exact_mod_cast (mul_eq_zero.mp none).resolve_right power

/-- What is kept of a number that is at least some of the last digits kept is at least as many. -/
theorem le_dropDigits {least coefficient places : ℕ} (le : least * 10 ^ places ≤ coefficient) :
    least ≤ dropDigits coefficient places := by
  rw [dropDigits_eq, ← roundHalfEven_one least]
  refine roundHalfEven_mono one_pos (Nat.pow_pos (by norm_num)) ?_
  rwa [mul_one]

/-- Digits that are kept down to a cent or below keep the cents that are there. -/
theorem kept_atLeast_fine {coefficient places : ℕ} {exponent : ℤ} (fine : exponent + places ≤ -2)
    (least : (cents : ℚ) / 100 ≤ coefficient * 10 ^ exponent) :
    (cents : ℚ) / 100 ≤ dropDigits coefficient places * 10 ^ (exponent + places) := by
  obtain ⟨rest, exponent_eq⟩ : ∃ rest : ℕ, exponent = -2 - ((rest + places : ℕ) : ℤ) :=
    ⟨(-2 - exponent - places).toNat, by omega⟩
  have unit : ∀ count : ℕ, (10 : ℚ) ^ (-2 - (count : ℤ)) * 10 ^ count = 1 / 100 := by
    intro count
    rw [← zpow_natCast, ← zpow_add₀ (by norm_num), sub_add_cancel]
    norm_num
  have whole : cents * 10 ^ rest * 10 ^ places ≤ coefficient := by
    have positive : (0 : ℚ) < 10 ^ (-2 - ((rest + places : ℕ) : ℤ)) := by positivity
    rw [exponent_eq] at least
    have scaled : ((cents * 10 ^ rest * 10 ^ places : ℕ) : ℚ) *
        10 ^ (-2 - ((rest + places : ℕ) : ℤ)) = cents / 100 := by
      rw [mul_assoc, ← pow_add, Nat.cast_mul, Nat.cast_pow, Nat.cast_ofNat, mul_assoc,
        mul_comm (10 ^ (rest + places)), unit]
      ring
    rw [← scaled] at least
    exact_mod_cast le_of_mul_le_mul_right least positive
  have lower : exponent + places = -2 - (rest : ℤ) := by omega
  calc (cents : ℚ) / 100 = (cents * 10 ^ rest : ℕ) * 10 ^ (-2 - (rest : ℤ)) := by
        rw [Nat.cast_mul, Nat.cast_pow, Nat.cast_ofNat, mul_assoc, mul_comm (10 ^ rest), unit]
        ring
    _ ≤ dropDigits coefficient places * 10 ^ (-2 - (rest : ℤ)) := by
        gcongr
        exact le_dropDigits whole
    _ = _ := by rw [lower]

/-- Digits that are kept above a cent only are more than a decimal counts in cents. -/
theorem kept_atLeast_coarse {coefficient : ℕ} {exponent : ℤ} (some : coefficient ≠ 0)
    (coarse : -2 < exponent + excess coefficient exponent) (few : cents < countable)
    (least : (cents : ℚ) / 100 ≤ coefficient * 10 ^ exponent) :
    (cents : ℚ) / 100 ≤ dropDigits coefficient (excess coefficient exponent) *
      10 ^ (exponent + excess coefficient exponent) := by
  rcases Nat.eq_zero_or_pos (excess coefficient exponent) with whole | dropped
  · have same : dropDigits coefficient 0 = coefficient := by
      simpa only [pow_zero, mul_one] using dropDigits_mul coefficient 0
    rwa [whole, same, Nat.cast_zero, add_zero]
  · have digits : digitCount coefficient = 28 + excess coefficient exponent := by
      unfold excess precision bottomExponent at coarse dropped ⊢
      omega
    generalize excess coefficient exponent = places at *
    have many : 10 ^ 27 ≤ dropDigits coefficient places := by
      refine le_dropDigits ?_
      have leading := pow_le_of_digitCount some
      rwa [digits, show 28 + places - 1 = 27 + places from by omega, pow_add] at leading
    have bound : (cents : ℚ) < 10 ^ 28 := by exact_mod_cast few
    have tenth : (10 : ℚ) ^ (-1 : ℤ) ≤ 10 ^ (exponent + places) :=
      zpow_le_zpow_right₀ (by norm_num) (by omega)
    calc (cents : ℚ) / 100 ≤ 10 ^ 27 * 10 ^ (-1 : ℤ) := by
          norm_num
          linarith
      _ ≤ dropDigits coefficient places * 10 ^ (exponent + places) := by
          gcongr
          exact_mod_cast many

/-- Rounding does not fall below cents that a decimal counts exactly. -/
theorem rounded_atLeast {negative : Bool} {coefficient : ℕ} {exponent : ℤ} {result : Decimal}
    (ok : rounded negative coefficient exponent = .ok result)
    (unsigned : negative = true → coefficient = 0) (few : cents < countable)
    (least : (cents : ℚ) / 100 ≤ coefficient * 10 ^ exponent) : result.IsAtLeast cents := by
  by_cases none : coefficient = 0
  · rw [none, Nat.cast_zero, zero_mul] at least
    rw [rounded, if_pos none] at ok
    cases ok
    exact ⟨fun _ => rfl, by rwa [Nat.cast_zero, zero_mul]⟩
  obtain ⟨kept, lower, rfl, same⟩ := rounded_ok ok
  refine ⟨fun sign => absurd (unsigned sign) none, ?_⟩
  rw [same]
  rcases le_or_gt (exponent + excess coefficient exponent) (-2) with fine | coarse
  · exact kept_atLeast_fine fine least
  · exact kept_atLeast_coarse none coarse few least

/-- A product of cents is not smaller than cents that a decimal counts exactly. -/
theorem mul_atLeast {count each : ℕ} {price cost : Decimal} (is : price.IsCents each)
    (ok : mul (.ofInt count) price = .ok cost) (few : cents < countable)
    (le : cents ≤ count * each) : cost.IsAtLeast cents := by
  obtain ⟨negative, coefficient, exponent, rfl, unsigned, counts⟩ := is.unsigned
  have plus : decide ((count : ℤ) < 0) = false := decide_eq_false (by omega)
  simp only [mul, ofInt, plus, Int.natAbs_natCast, zero_add, Bool.false_bne] at ok
  refine rounded_atLeast ok (fun sign => by rw [unsigned sign, mul_zero]) few ?_
  rw [Nat.cast_mul, mul_assoc, counts, ← mul_div_assoc]
  gcongr
  exact_mod_cast le

/-- A product of cents that a decimal counts exactly is exact. -/
theorem mul_exact {count each : ℕ} {price : Decimal} (is : price.IsCents each)
    (few : count * each < countable) :
    ∃ cost, mul (.ofInt count) price = .ok cost ∧ cost.IsCents (count * each : ℕ) := by
  obtain ⟨negative, coefficient, exponent, rfl, unsigned, counts⟩ := is.unsigned
  have product : ((count * coefficient : ℕ) : ℚ) * 10 ^ exponent = (count * each : ℕ) / 100 := by
    push_cast
    rw [mul_assoc, counts, mul_div_assoc]
  have plus : decide ((count : ℤ) < 0) = false := decide_eq_false (by omega)
  obtain ⟨kept, lower, ok, exact⟩ := rounded_exact negative product few
  refine ⟨.finite negative kept lower, ?_, rfl, ?_⟩
  · simpa only [mul, ofInt, plus, Int.natAbs_natCast, zero_add, Bool.false_bne] using ok
  · rw [Int.cast_natCast, ← exact]
    cases negative with
    | false => simp [Decimal.ratio]
    | true =>
      rw [unsigned rfl, mul_zero, Nat.cast_zero, zero_mul, ← exact] at product
      simp only [Decimal.ratio, ↓reduceIte]
      linarith only [product]

/-- A term is never nudged to a smaller one. -/
theorem le_nudge (a : ℕ) (e : ℤ) (b : ℕ) (f : ℤ) :
    (b : ℚ) * 10 ^ f ≤ (nudge a e b f).1 * 10 ^ (nudge a e b f).2 := by
  unfold nudge
  dsimp only
  split
  · rename_i below
    rw [Nat.cast_one, one_mul]
    refine (lt_pow_adjusted b f).le.trans (zpow_le_zpow_right₀ (by norm_num) ?_)
    omega
  · exact le_refl _

theorem addAligned_atLeast {n m : Bool} {a b : ℕ} {e f : ℤ} {total : Decimal}
    (ok : addAligned n a e m b f = .ok total) (left : n = true → a = 0) (right : m = true → b = 0)
    (few : cents < countable) (least : (cents : ℚ) / 100 ≤ a * 10 ^ e + b * 10 ^ f) :
    total.IsAtLeast cents := by
  obtain ⟨sign, sum, aligned, unsigned, same⟩ := addAligned_eq (e := e) (f := f) left right
  exact rounded_atLeast (aligned ▸ ok) unsigned few (least.trans_eq same.symm)

/-- A sum is not smaller than the cents of its terms that a decimal counts exactly. -/
theorem add_atLeast {first second total : Decimal} (left : first.IsAtLeast cents)
    (right : second.IsAtLeast more) (few : cents + more < countable)
    (ok : first.add second = .ok total) : total.IsAtLeast (cents + more) := by
  cases first with
  | infinite negative => exact left.elim
  | nan negative signaling payload => exact left.elim
  | finite n a e =>
  cases second with
  | infinite negative => exact right.elim
  | nan negative signaling payload => exact right.elim
  | finite m b f =>
  obtain ⟨plus, large⟩ := left
  obtain ⟨plus', small⟩ := right
  have free : ∀ exponent : ℤ, ((0 : ℕ) : ℚ) * 10 ^ exponent = 0 := by simp
  have both : ((cents + more : ℕ) : ℚ) / 100 = cents / 100 + more / 100 := by
    rw [Nat.cast_add, add_div]
  unfold add at ok
  dsimp only at ok
  split_ifs at ok with none one other order
  · refine rounded_atLeast ok (fun _ => rfl) few ?_
    rw [none.1, free] at large
    rw [none.2, free] at small
    rw [both, free]
    linarith only [large, small]
  · refine addAligned_atLeast ok (fun _ => rfl) plus' few ?_
    rw [one, free] at large
    rw [both, free]
    linarith only [large, small]
  · refine addAligned_atLeast ok plus (fun _ => rfl) few ?_
    rw [other, free] at small
    rw [both, free]
    linarith only [large, small]
  · refine addAligned_atLeast ok plus (fun sign => absurd (plus' sign) other) few ?_
    rw [both]
    exact add_le_add large (small.trans (le_nudge a e b f))
  · refine addAligned_atLeast ok (fun sign => absurd (plus sign) one) plus' few ?_
    rw [both]
    exact add_le_add (large.trans (le_nudge b f a e)) small

/-- An amount that is rounded to whole cents keeps the cents that are in it. -/
theorem toCents_atLeast {amount rounded : Decimal} (least : amount.IsAtLeast cents)
    (ok : amount.toCents = .ok rounded) : rounded.IsAtLeast cents := by
  cases amount with
  | infinite negative => exact least.elim
  | nan negative signaling payload => exact least.elim
  | finite negative coefficient exponent =>
  obtain ⟨unsigned, least⟩ := least
  unfold toCents at ok
  dsimp only at ok
  split_ifs at ok with none beyond digits whole many many
  · cases ok
    rw [none, Nat.cast_zero, zero_mul] at least
    exact ⟨fun _ => rfl, by rwa [Nat.cast_zero, zero_mul]⟩
  · cases ok
    refine ⟨fun sign => absurd (unsigned sign) none, ?_⟩
    rwa [← sub_neg_eq_add exponent 2, aligned_eq whole]
  · cases ok
    refine ⟨fun sign => absurd (unsigned sign) none, ?_⟩
    have lower : exponent + ((-2 - exponent).toNat : ℤ) = -2 := by omega
    have kept := kept_atLeast_fine lower.le least
    rwa [lower] at kept

/-! ## Order -/

theorem ne_zero_of_lt {a b : ℕ} {e f : ℤ} (less : (a : ℚ) * 10 ^ e < b * 10 ^ f) : b ≠ 0 := by
  rintro rfl
  rw [Nat.cast_zero, zero_mul] at less
  exact absurd less (not_lt.mpr (by positivity))

theorem compareMagnitude_of_lt {a b : ℕ} {e f : ℤ} (less : (a : ℚ) * 10 ^ e < b * 10 ^ f) :
    compareMagnitude a e b f = .lt := by
  have some := ne_zero_of_lt less
  unfold compareMagnitude
  split_ifs with none digits
  · obtain rfl := none.resolve_right some
    exact Nat.compare_eq_lt.mpr (Nat.pos_of_ne_zero some)
  · have order : (10 : ℚ) ^ adjusted a e < 10 ^ (adjusted b f + 1) :=
      (pow_adjusted_le (fun zero => none (.inl zero)) e).trans_lt (less.trans (lt_pow_adjusted b f))
    have le := (zpow_lt_zpow_iff_right₀ (by norm_num)).mp order
    exact Int.compare_eq_lt.mpr (by omega)
  · have power : (0 : ℚ) < 10 ^ min e f := by positivity
    rw [← aligned_eq (min_le_left e f), ← aligned_eq (min_le_right e f)] at less
    exact Nat.compare_eq_lt.mpr (by exact_mod_cast lt_of_mul_lt_mul_right less power.le)

/-- The smaller one of two finite numbers is ordered below the other one. -/
theorem order?_of_lt {first second : Decimal} (finite : first.isFinite = true)
    (finite' : second.isFinite = true) (less : first.ratio < second.ratio) :
    first.order? second = some .lt := by
  cases first with
  | infinite negative => exact absurd finite Bool.false_ne_true
  | nan negative signaling payload => exact absurd finite Bool.false_ne_true
  | finite n a e =>
  cases second with
  | infinite negative => exact absurd finite' Bool.false_ne_true
  | nan negative signaling payload => exact absurd finite' Bool.false_ne_true
  | finite m b f =>
  have unsigned : ∀ (c : ℕ) (g : ℤ), (0 : ℚ) ≤ c * 10 ^ g := fun c g => by positivity
  cases n <;> cases m <;>
    simp only [Decimal.ratio, ↓reduceIte, Bool.false_eq_true, one_mul, neg_mul] at less
  case false.false =>
    by_cases none : a = 0 <;> simp [order?, none, ne_zero_of_lt less, compareMagnitude_of_lt less]
  case false.true => linarith only [less, unsigned a e, unsigned b f]
  case true.false =>
    have some : ¬(a = 0 ∧ b = 0) := by
      rintro ⟨rfl, rfl⟩
      simp at less
    by_cases none : a = 0 <;> simp_all [order?]
  case true.true =>
    have more := neg_lt_neg_iff.mp less
    by_cases none : b = 0 <;> simp [order?, none, ne_zero_of_lt more, compareMagnitude_of_lt more]

end Decimal

end Herald
