import Herald.Proofs.Segments

/-! # Segments in doubles

A length is divided by the size of a segment in doubles, and the quotient is rounded up. As long as
a double can hold the length, the doubles around the quotient are so close that it is not rounded to
an integer below it, unless it is so small that it is rounded to zero. So segments can be counted in
integers.
-/

namespace Herald

namespace Number

theorem twoPow_pos (bits : ℕ) : 0 < twoPow bits := Nat.two_pow_pos bits

theorem twoPow_succ (bits : ℕ) : twoPow (bits + 1) = 2 * twoPow bits := Nat.pow_succ'

theorem twoPow_dvd {few many : ℕ} (le : few ≤ many) : twoPow few ∣ twoPow many :=
  Nat.pow_dvd_pow 2 le

/-- A quotient is rounded down by at most a half. -/
theorem le_roundHalfEven (numerator : ℕ) {denominator : ℕ} (divisor : 0 < denominator) :
    2 * numerator ≤ 2 * (roundHalfEven numerator denominator * denominator) + denominator := by
  have split := Nat.div_add_mod numerator denominator
  have rest := Nat.mod_lt numerator divisor
  rw [mul_comm] at split
  by_cases high : denominator < 2 * (numerator % denominator)
  · have next : roundHalfEven numerator denominator = numerator / denominator + 1 := by
      rw [roundHalfEven, if_neg high.not_gt, if_pos high]
    rw [next, Nat.add_mul]
    omega
  · have kept := Nat.mul_le_mul_right denominator (div_le_roundHalfEven numerator denominator)
    omega

end Number

/-! ## Doubles around a quotient -/

namespace Binary64

open Number

variable {a b full units : ℕ}

theorem ceiling?_of_between (above : full * twoPow unitBits < units)
    (below : units ≤ (full + 1) * twoPow unitBits) :
    (finite false units).ceiling? = some ((full + 1 : ℕ) : ℤ) := by
  have one := twoPow_pos unitBits
  rw [ceiling?, splitWhole]
  dsimp only
  generalize twoPow unitBits = unit at above below one ⊢
  rcases below.lt_or_eq with less | rfl
  · have whole : units / unit = full := Nat.div_eq_of_lt_le above.le less
    have rest : units % unit ≠ 0 := by
      intro none
      have split := Nat.div_add_mod units unit
      rw [whole, none, mul_comm] at split
      omega
    rw [whole, if_neg Bool.false_ne_true, if_neg rest]
    rfl
  · rw [Nat.mul_div_cancel _ one, Nat.mul_mod_left, if_neg Bool.false_ne_true, if_pos rfl]

/-- What is at most half of the smallest double is rounded to zero. -/
theorem roundUnits_of_vanishing (vanishing : 2 * a ≤ b) (divisor : 0 < b) : roundUnits a b = 0 := by
  have none : a / b = 0 := Nat.div_eq_of_lt (by omega)
  have rest : a % b = a := Nat.mod_eq_of_lt (by omega)
  have spacing : twoPow (spacingBits 0) = 1 := by decide
  rw [roundUnits, none, spacing, mul_one, mul_one, roundHalfEven, none, rest]
  split_ifs <;> omega

/-- A double keeps 53 bits of a magnitude. -/
theorem spacing_le (coarse : 0 < spacingBits units) :
    twoPow (spacingBits units) * twoPow 52 ≤ units := by
  unfold spacingBits at coarse ⊢
  have positive : units ≠ 0 := by
    rintro rfl
    simp at coarse
  have split : twoPow (units.log2 + 1 - 53) * twoPow 52 = twoPow units.log2 := by
    change 2 ^ _ * 2 ^ 52 = 2 ^ units.log2
    rw [← Nat.pow_add]
    congr 1
    omega
  rw [split]
  exact (Nat.le_log2 positive).mp le_rfl

/-- Next to the quotient of an integer of at most 53 bits, the doubles are closer than half of what
one more makes of it. -/
theorem spacing_lt (exact : a < twoPow 53) (divisor : 0 < b)
    (coarse : 0 < spacingBits (a * twoPow unitBits / b)) :
    twoPow (spacingBits (a * twoPow unitBits / b)) * b < 2 * twoPow unitBits := by
  have kept := (Nat.le_div_iff_mul_le divisor).mp (spacing_le coarse)
  generalize twoPow (spacingBits (a * twoPow unitBits / b)) = step at kept ⊢
  refine Nat.lt_of_mul_lt_mul_left (a := twoPow 52) ?_
  calc twoPow 52 * (step * b) = step * twoPow 52 * b := by ring
    _ ≤ a * twoPow unitBits := kept
    _ < twoPow 53 * twoPow unitBits := Nat.mul_lt_mul_of_pos_right exact (twoPow_pos _)
    _ = twoPow 52 * (2 * twoPow unitBits) := by
      have double : twoPow 53 = twoPow 52 * 2 := by decide
      rw [double]
      ring

/-- The doubles next to the quotient of an integer of at most 53 bits are no further apart than
integers. -/
theorem spacingBits_le (exact : a < twoPow 53) (divisor : 0 < b) :
    spacingBits (a * twoPow unitBits / b) ≤ unitBits := by
  have spaced := spacing_lt exact divisor
  generalize unitBits = bits at *
  generalize spacingBits (a * twoPow bits / b) = width at *
  by_contra wide
  have wide : bits + 1 ≤ width := Nat.not_le.mp wide
  have least := Nat.le_of_dvd (twoPow_pos width) (twoPow_dvd wide)
  rw [twoPow_succ] at least
  have one := Nat.le_mul_of_pos_right (twoPow width) divisor
  have close := spaced (by omega)
  omega

/-- The double quotient of an integer of at most 53 bits does not exceed an integer that the exact
one does not exceed. -/
theorem roundUnits_le (exact : a < twoPow 53) (divisor : 0 < b) (below : a ≤ full * b) :
    roundUnits (a * twoPow unitBits) b ≤ full * twoPow unitBits := by
  refine steps_le_of_le divisor (twoPow_pos _)
    ((twoPow_dvd (spacingBits_le exact divisor)).mul_left _) ?_
  calc a * twoPow unitBits ≤ full * b * twoPow unitBits := Nat.mul_le_mul_right _ below
    _ = full * twoPow unitBits * b := by ring

/-- Half of a step does not lead from the quotient down to an integer below it: the step is less
than twice the share of one, or the integer is zero and the quotient more than half of the smallest
double. -/
theorem step_lt (exact : a < twoPow 53) (divisor : 0 < b)
    (measurable : b < 2 * (a * twoPow unitBits)) (above : full * b < a) :
    2 * (full * twoPow unitBits * b) + b * twoPow (spacingBits (a * twoPow unitBits / b)) <
      2 * (a * twoPow unitBits) := by
  have large : twoPow 53 ≤ 2 * twoPow unitBits := by decide +kernel
  have spaced := spacing_lt exact divisor
  generalize unitBits = bits at *
  generalize spacingBits (a * twoPow bits / b) = width at *
  have next : (full * b + 1) * twoPow bits ≤ a * twoPow bits := Nat.mul_le_mul_right _ above
  rw [Nat.add_mul, one_mul, mul_right_comm] at next
  rcases Nat.eq_zero_or_pos width with rfl | coarse
  · have single : twoPow 0 = 1 := rfl
    rw [single, mul_one]
    rcases Nat.eq_zero_or_pos full with rfl | more
    · rwa [zero_mul, zero_mul, mul_zero, zero_add]
    · have one := Nat.le_mul_of_pos_left b more
      omega
  · have close := spaced coarse
    rw [mul_comm b]
    omega

/-- The double quotient of an integer of at most 53 bits exceeds every integer that the exact one
exceeds. -/
theorem lt_roundUnits (exact : a < twoPow 53) (divisor : 0 < b)
    (measurable : b < 2 * (a * twoPow unitBits)) (above : full * b < a) :
    full * twoPow unitBits < roundUnits (a * twoPow unitBits) b := by
  have apart := step_lt exact divisor measurable above
  rw [roundUnits]
  generalize twoPow unitBits = unit at *
  have steps := twoPow_pos (spacingBits (a * unit / b))
  generalize twoPow (spacingBits (a * unit / b)) = step at *
  have nearest := le_roundHalfEven (a * unit) (Nat.mul_pos divisor steps)
  generalize roundHalfEven (a * unit) (b * step) = rounded at *
  by_contra low
  have lower := Nat.mul_le_mul_right b (Nat.not_lt.mp low)
  have same : rounded * (b * step) = rounded * step * b := by ring
  omega

/-- The double quotient of an integer of at most 53 bits is rounded up like the exact one. -/
theorem ceiling?_quotient (exact : a < twoPow 53) (divisor : 0 < b) (positive : 0 < a)
    (measurable : b < 2 * (a * twoPow unitBits)) :
    (ofUnits false (a * twoPow unitBits) b).ceiling? = some (((a - 1) / b + 1 : ℕ) : ℤ) := by
  have below : a ≤ ((a - 1) / b + 1) * b := by
    have next := Nat.lt_div_mul_add divisor (a := a - 1)
    rw [Nat.add_mul, one_mul]
    omega
  have above : (a - 1) / b * b < a := by
    have part := Nat.div_mul_le_self (a - 1) b
    omega
  have few : (a - 1) / b + 1 ≤ a := by
    have part := Nat.div_le_self (a - 1) b
    omega
  have less := roundUnits_le exact divisor below
  have finite : roundUnits (a * twoPow unitBits) b < overflowUnits := by
    have room : twoPow 53 * twoPow unitBits ≤ overflowUnits := by decide +kernel
    exact (less.trans (Nat.mul_le_mul_right _ few)).trans_lt
      ((Nat.mul_lt_mul_of_pos_right exact (twoPow_pos _)).trans_le room)
  rw [ofUnits, if_pos finite]
  exact ceiling?_of_between (lt_roundUnits exact divisor measurable above) less

end Binary64

/-! ## Segments -/

/-- Below 53 bits, a text that does not fit a segment alone takes as many as the quotient of doubles
says when it is rounded up. -/
theorem SegmentSizes.ceiling?_share (sizes : SegmentSizes) {length : ℕ}
    (several : sizes.first < length) (exact : length < Number.twoPow 53) :
    (Binary64.ofUnits false (length * Number.twoPow Binary64.unitBits) sizes.further).ceiling? =
      some (sizes.count length : ℤ) := by
  have doubled : length * Number.twoPow (Binary64.unitBits + 1) =
      2 * (length * Number.twoPow Binary64.unitBits) := by
    rw [Number.twoPow_succ]
    ring
  rw [count, if_neg (by omega), if_neg (by omega)]
  split_ifs with vanishing
  · have tiny : 2 * (length * Number.twoPow Binary64.unitBits) ≤ sizes.further :=
      doubled ▸ of_decide_eq_true vanishing
    rw [Binary64.ofUnits, Binary64.roundUnits_of_vanishing tiny sizes.further_pos]
    decide +kernel
  · have measurable : sizes.further < 2 * (length * Number.twoPow Binary64.unitBits) := by
      rw [← doubled]
      exact Nat.not_le.mp fun le => vanishing (decide_eq_true le)
    rw [sizes.joined_eq (by omega)]
    exact Binary64.ceiling?_quotient exact sizes.further_pos (by omega) measurable

end Herald
