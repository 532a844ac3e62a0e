import Mathlib.Algebra.Order.Field.Power
import Mathlib.Algebra.Order.Field.Rat
import Mathlib.Tactic.Positivity
import Herald.Ledger.Balance

/-! # Exact amounts of money

The ledgers are written for any kind of amount. Here columns of money keep exact decimals, as their
type promises, and each of them remembers what it held before. The engine only ever adds to such an
amount, subtracts from it and compares it, so what is remembered is every value that the column has
had, those between two writes of one pass included.
-/

namespace Herald

/-- The rational number that a finite decimal writes. -/
def Decimal.ratio : Decimal → ℚ
  | .finite negative coefficient exponent =>
    (if negative then -1 else 1) * coefficient * 10 ^ exponent
  | _ => 0

/-- An exact amount, with the amounts that its column held before, the latest one first. -/
structure Exact where
  value : ℚ
  past : List ℚ
  deriving DecidableEq

namespace Exact

/-- Every amount that a column has held. -/
def held (amount : Exact) : List ℚ := amount.value :: amount.past

/-- A column is given another value. -/
def become (amount : Exact) (value : ℚ) : Exact := ⟨value, amount.held⟩

instance : Amount Exact where
  zero := ⟨0, []⟩
  ofDecimal? number := if number.isFinite then some ⟨number.ratio, []⟩ else none
  add? a b := some (a.become (a.value + b.value))
  sub? a b := some (a.become (a.value - b.value))
  covers a b := decide (b.value ≤ a.value)
  read places amount :=
    let units := amount.value.num.natAbs * Number.tenPow places
    .finite (decide (amount.value < 0)) (Number.roundHalfEven units amount.value.den)
      (-(places : Int))

@[simp] theorem zero_value : (Amount.zero : Exact).value = 0 := rfl

@[simp] theorem become_value (amount : Exact) (value : ℚ) : (amount.become value).value = value :=
  rfl

@[simp] theorem held_become (amount : Exact) (value : ℚ) :
    (amount.become value).held = value :: amount.held := rfl

theorem add?_eq (a b : Exact) : Amount.add? a b = some (a.become (a.value + b.value)) := rfl

theorem sub?_eq (a b : Exact) : Amount.sub? a b = some (a.become (a.value - b.value)) := rfl

theorem covers_iff (a b : Exact) : Amount.covers a b = true ↔ b.value ≤ a.value := by
  simp only [Amount.covers, decide_eq_true_eq]

/-- A finite decimal is stored as the number that it writes. -/
theorem stored_of_finite {amount : Decimal} (finite : amount.isFinite = true) :
    BalanceLedger.stored (α := Exact) amount = .ok ⟨amount.ratio, []⟩ := by
  simp only [BalanceLedger.stored, Amount.ofDecimal?, finite, ↓reduceIte]

theorem stored_of_infinite {amount : Decimal} (infinite : amount.isFinite = false) :
    BalanceLedger.stored (α := Exact) amount = .error .refusedRow := by
  simp only [BalanceLedger.stored, Amount.ofDecimal?, infinite, Bool.false_eq_true, ↓reduceIte]

end Exact

namespace Decimal

theorem ratio_of_isZero {amount : Decimal} (zero : amount.isZero = true) : amount.ratio = 0 := by
  cases amount with
  | finite negative coefficient exponent =>
    have none : coefficient = 0 := by simpa only [isZero, beq_iff_eq] using zero
    simp only [ratio, none, Nat.cast_zero, mul_zero, zero_mul]
  | infinite negative => rfl
  | nan negative signaling payload => rfl

theorem isFinite_of_isZero {amount : Decimal} (zero : amount.isZero = true) :
    amount.isFinite = true := by
  cases amount with
  | finite negative coefficient exponent => rfl
  | infinite negative => exact absurd zero Bool.false_ne_true
  | nan negative signaling payload => exact absurd zero Bool.false_ne_true

end Decimal

/-- An amount that may be moved is itself, and not below zero. -/
theorem BalanceLedger.movable_ok {amount moved : Decimal} (ok : movable amount = .ok moved) :
    moved = amount ∧ 0 ≤ amount.ratio := by
  unfold movable at ok
  cases amount with
  | nan negative signaling payload => simp [Decimal.order?] at ok
  | infinite negative =>
    refine ⟨?_, le_refl 0⟩
    split at ok
    · cases ok
    · cases ok
    · exact (Except.ok.inj ok).symm
  | finite negative coefficient exponent =>
    cases negative with
    | false =>
      constructor
      · split at ok
        · cases ok
        · cases ok
        · exact (Except.ok.inj ok).symm
      · simp only [Decimal.ratio, Bool.false_eq_true, ↓reduceIte, one_mul]
        positivity
    | true =>
      by_cases none : coefficient = 0
      · subst none
        simp [Decimal.order?, Decimal.zero] at ok
        exact ⟨ok.symm, by simp [Decimal.ratio]⟩
      · simp [Decimal.order?, Decimal.zero, none] at ok

end Herald
