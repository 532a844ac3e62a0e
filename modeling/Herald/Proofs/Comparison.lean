import Mathlib.Order.Compare
import Herald.Proofs.Magnitudes
import Herald.Proofs.Numerals
import Herald.Proofs.Partition

/-! # Comparing numbers

Two finite decimals are compared as the rational numbers that they write, however far apart their
exponents are: the places of their first digits decide, and only where these agree the digits are
aligned. So a number has one place in the order, whatever it is written as.
-/

namespace Herald

/-! ## The order of decimals -/

namespace Decimal

open Number

/-- A number whose first digit stands further to the right is smaller. -/
theorem lt_of_adjusted_lt {a b : ℕ} {e f : ℤ} (some : b ≠ 0) (less : adjusted a e < adjusted b f) :
    (a : ℚ) * 10 ^ e < b * 10 ^ f :=
  calc (a : ℚ) * 10 ^ e < 10 ^ (adjusted a e + 1) := lt_pow_adjusted a e
    _ ≤ 10 ^ adjusted b f := zpow_le_zpow_right₀ (by norm_num) less
    _ ≤ b * 10 ^ f := pow_adjusted_le some f

/-- Whole numbers of a unit are ordered as they are without it. -/
theorem compare_compares (a b : ℕ) {unit : ℚ} (positive : 0 < unit) :
    (compare a b).Compares (a * unit) (b * unit) := by
  rcases Nat.lt_trichotomy a b with less | rfl | more
  · rw [Nat.compare_eq_lt.mpr less]
    exact mul_lt_mul_of_pos_right (by exact_mod_cast less) positive
  · rw [Nat.compare_eq_eq.mpr rfl]
    exact rfl
  · rw [Nat.compare_eq_gt.mpr more]
    exact mul_lt_mul_of_pos_right (by exact_mod_cast more) positive

theorem compareMagnitude_compares (a b : ℕ) (e f : ℤ) :
    (compareMagnitude a e b f).Compares ((a : ℚ) * 10 ^ e) (b * 10 ^ f) := by
  have unit : ∀ exponent : ℤ, (0 : ℚ) < 10 ^ exponent := fun exponent => by positivity
  unfold compareMagnitude
  split
  · -- A zero is the same in every unit, so the other number's unit may be taken.
    rename_i zero
    rcases zero with rfl | rfl
    · rw [Nat.cast_zero, zero_mul, ← zero_mul (10 ^ f : ℚ), ← Nat.cast_zero]
      exact compare_compares 0 b (unit f)
    · rw [Nat.cast_zero, zero_mul, ← zero_mul (10 ^ e : ℚ), ← Nat.cast_zero]
      exact compare_compares a 0 (unit e)
  · rename_i nonzero
    obtain ⟨someLeft, someRight⟩ := not_or.mp nonzero
    split
    · rename_i apart
      rcases Int.lt_or_gt_of_ne apart with less | more
      · rw [Int.compare_eq_lt.mpr less]
        exact lt_of_adjusted_lt someRight less
      · rw [Int.compare_eq_gt.mpr more]
        exact lt_of_adjusted_lt someLeft more
    · rw [← aligned_eq (min_le_left e f) a, ← aligned_eq (min_le_right e f) b]
      exact compare_compares _ _ (unit _)

theorem ratio_of_sign (negative : Bool) (coefficient : ℕ) (exponent : ℤ) :
    (finite negative coefficient exponent).ratio =
      if negative then -((coefficient : ℚ) * 10 ^ exponent) else coefficient * 10 ^ exponent := by
  cases negative <;> simp [ratio]

theorem compares_neg {order : Ordering} {a b : ℚ} (compares : order.Compares a b) :
    order.Compares (-b) (-a) := by
  cases order with
  | lt => exact neg_lt_neg compares
  | eq => exact congrArg Neg.neg (Eq.symm compares)
  | gt => exact neg_lt_neg compares

/-- Two finite decimals have an order, which is that of the numbers that they write. -/
theorem order?_compares {first second : Decimal} (finite : first.isFinite = true)
    (also : second.isFinite = true) :
    ∃ order, first.order? second = some order ∧ order.Compares first.ratio second.ratio := by
  cases first with
  | infinite negative => cases finite
  | nan negative signaling payload => cases finite
  | finite n a e =>
  cases second with
  | infinite negative => cases also
  | nan negative signaling payload => cases also
  | finite m b f =>
  have positive : ∀ {digits : ℕ} (exponent : ℤ), digits ≠ 0 → (0 : ℚ) < digits * 10 ^ exponent :=
    fun exponent some => mul_pos (by exact_mod_cast Nat.pos_of_ne_zero some) (by positivity)
  have straight := compareMagnitude_compares a b e f
  have turned := compareMagnitude_compares b a f e
  rw [order?, ratio_of_sign, ratio_of_sign]
  -- The sign of a zero does not count, so zeros come before signs.
  by_cases left : a = 0 <;> by_cases right : b = 0
  · exact ⟨.eq, if_pos ⟨left, right⟩, by simp [left, right]⟩
  · have more := positive f right
    subst left
    rw [Nat.cast_zero, zero_mul, neg_zero, ite_self]
    cases m with
    | false => exact ⟨.lt, by simp [right], more⟩
    | true => exact ⟨.gt, by simp [right], neg_lt_zero.mpr more⟩
  · have some := positive e left
    subst right
    rw [Nat.cast_zero, zero_mul, neg_zero, ite_self]
    cases n with
    | false => exact ⟨.gt, by simp [left], some⟩
    | true => exact ⟨.lt, by simp [left], neg_lt_zero.mpr some⟩
  · have some := positive e left
    have more := positive f right
    simp only [left, right, false_and, if_false]
    cases n <;> cases m
    · exact ⟨_, rfl, straight⟩
    · exact ⟨.gt, rfl, (neg_lt_zero.mpr more).trans some⟩
    · exact ⟨.lt, rfl, (neg_lt_zero.mpr some).trans more⟩
    · exact ⟨_, rfl, compares_neg turned⟩

/-- Finite decimals of one number have the same order with every decimal. -/
theorem order?_congr {first second : Decimal} (finite : first.isFinite = true)
    (also : second.isFinite = true) (same : first.ratio = second.ratio) (other : Decimal) :
    first.order? other = second.order? other := by
  cases first with
  | infinite negative => cases finite
  | nan negative signaling payload => cases finite
  | finite n a e =>
  cases second with
  | infinite negative => cases also
  | nan negative signaling payload => cases also
  | finite m b f =>
  cases other with
  | nan negative signaling payload => rfl
  | infinite negative => rfl
  | finite negative coefficient exponent =>
    obtain ⟨order, ordered, compares⟩ := order?_compares finite (rfl :
      (Decimal.finite negative coefficient exponent).isFinite = true)
    obtain ⟨another, reordered, recompares⟩ := order?_compares also (rfl :
      (Decimal.finite negative coefficient exponent).isFinite = true)
    rw [same] at compares
    rw [ordered, reordered, compares.inj recompares]

theorem isSignaling_of_isFinite {decimal : Decimal} (finite : decimal.isFinite = true) :
    decimal.isSignaling = false := by
  cases decimal with
  | nan negative signaling payload => cases finite
  | _ => rfl

end Decimal

/-! ## Relations of numbers -/

namespace Relation

/-- What a relation says of two elements of an order. -/
def Relates {α : Type} [LinearOrder α] : Relation → α → α → Prop
  | .equal, a, b => a = b
  | .different, a, b => a ≠ b
  | .greater, a, b => b < a
  | .less, a, b => a < b
  | .atLeast, a, b => b ≤ a
  | .atMost, a, b => a ≤ b

instance {α : Type} [LinearOrder α] (relation : Relation) (a b : α) :
    Decidable (relation.Relates a b) :=
  match relation with
  | .equal => inferInstanceAs (Decidable (a = b))
  | .different => inferInstanceAs (Decidable (a ≠ b))
  | .greater => inferInstanceAs (Decidable (b < a))
  | .less => inferInstanceAs (Decidable (a < b))
  | .atLeast => inferInstanceAs (Decidable (b ≤ a))
  | .atMost => inferInstanceAs (Decidable (a ≤ b))

/-- The order of two elements decides what relates them. -/
theorem allows_eq_decide {α : Type} [LinearOrder α] {order : Ordering} {a b : α}
    (compares : order.Compares a b) (relation : Relation) :
    relation.allows order = decide (relation.Relates a b) := by
  cases order with
  | lt =>
    have less : a < b := compares
    cases relation <;> simp [allows, Relates, less, less.le, less.ne, less.not_gt, not_le.mpr less]
  | eq =>
    obtain rfl : a = b := compares
    cases relation <;> simp [allows, Relates]
  | gt =>
    have more : b < a := compares
    cases relation <;> simp [allows, Relates, more, more.le, more.ne', more.not_gt, not_le.mpr more]

variable {first second : Decimal}

/-- Two finite decimals are related as the numbers that they write. -/
theorem holdsOfNumbers_of_finite (finite : first.isFinite = true) (also : second.isFinite = true)
    (relation : Relation) :
    relation.holdsOfNumbers first second =
      .ok (decide (relation.Relates first.ratio second.ratio)) := by
  obtain ⟨order, ordered, compares⟩ := Decimal.order?_compares finite also
  rw [holdsOfNumbers_of_order ordered, allows_eq_decide compares]

/-- Finite decimals of one number are related to the same decimals. -/
theorem holdsOfNumbers_congr (finite : first.isFinite = true) (also : second.isFinite = true)
    (same : first.ratio = second.ratio) (relation : Relation) (other : Decimal) :
    relation.holdsOfNumbers first other = relation.holdsOfNumbers second other ∧
      relation.holdsOfNumbers other first = relation.holdsOfNumbers other second := by
  have order := Decimal.order?_congr finite also same other
  have turned : other.order? first = other.order? second := by
    rw [← Decimal.order?_swap first, ← Decimal.order?_swap second, order]
  unfold holdsOfNumbers
  rw [order, turned, Decimal.isSignaling_of_isFinite finite, Decimal.isSignaling_of_isFinite also]
  exact ⟨rfl, rfl⟩

end Relation

/-! ## What a value denotes -/

/-- A text writes a numeral. Blanks around it and underscores in it do not count, a digit of any
script stands for its value, and the exponent is one that can be written. -/
structure Numeral.WrittenBy (numeral : Numeral) (content : String) : Prop where
  spelled : ((Text.trim content.toList).filter (· != '_')).map Decimal.plainForm = numeral.chars
  ranged : Decimal.InRange numeral.magnitude.coefficient numeral.magnitude.exponent

/-- The number that a value stands for: an integer, a finite decimal, or a numeral in a text or in
the shortest text of a double. -/
inductive Value.Denotes : Value → ℚ → Prop
  | int (number : ℤ) : Denotes (.int number) number
  | decimal {decimal : Decimal} (finite : decimal.isFinite = true) :
      Denotes (.decimal decimal) decimal.ratio
  | float {number : Binary64} {numeral : Numeral} (written : numeral.WrittenBy number.text) :
      Denotes (.float number) numeral.decimal.ratio
  | text {content : String} {numeral : Numeral} (written : numeral.WrittenBy content) :
      Denotes (.text content) numeral.decimal.ratio

theorem ofText?_iff {content : String} {decimal : Decimal} :
    (Decimal.ofText? content = some decimal ∧ decimal.isFinite = true) ↔
      ∃ numeral : Numeral, numeral.WrittenBy content ∧ numeral.decimal = decimal := by
  rw [Decimal.ofText?, signed?_eq_some_iff]
  constructor
  · rintro ⟨numeral, spelled, ranged, writes⟩
    exact ⟨numeral, ⟨spelled.symm, ranged⟩, writes⟩
  · rintro ⟨numeral, ⟨spelled, ranged⟩, writes⟩
    exact ⟨numeral, spelled.symm, ranged, writes⟩

namespace Value

variable {value : Value} {ratio : ℚ}

/-- A value denotes the number of the finite decimal that it is read as. -/
theorem denotes_iff :
    value.Denotes ratio ↔ ∃ decimal, value.decimal? = some decimal ∧ decimal.isFinite = true ∧
      decimal.ratio = ratio := by
  constructor
  · rintro (number | finite | written | written)
    · exact ⟨_, rfl, rfl, Decimal.ratio_ofInt number⟩
    · exact ⟨_, rfl, finite, rfl⟩
    · obtain ⟨reads, finite⟩ := ofText?_iff.mpr ⟨_, written, rfl⟩
      exact ⟨_, reads, finite, rfl⟩
    · obtain ⟨reads, finite⟩ := ofText?_iff.mpr ⟨_, written, rfl⟩
      refine ⟨_, ?_, finite, rfl⟩
      rw [decimal?, reads]
      exact if_pos finite
  · rintro ⟨decimal, reads, finite, rfl⟩
    cases value with
    | int number =>
      cases reads
      rw [Decimal.ratio_ofInt]
      exact .int number
    | decimal number =>
      cases reads
      exact .decimal finite
    | float number =>
      obtain ⟨numeral, written, rfl⟩ := ofText?_iff.mp ⟨reads, finite⟩
      exact .float written
    | text content =>
      rw [decimal?] at reads
      split at reads
      · rename_i found
        split at reads
        · cases reads
          obtain ⟨numeral, written, rfl⟩ := ofText?_iff.mp ⟨found, finite⟩
          exact .text written
        · cases reads
      · cases reads
    | _ => cases reads

theorem Denotes.ne_null (denotes : value.Denotes ratio) : value ≠ .null := by
  rintro rfl
  cases denotes

/-- A value denotes one number at most. -/
theorem Denotes.unique {other : ℚ} (denotes : value.Denotes ratio) (also : value.Denotes other) :
    ratio = other := by
  obtain ⟨first, reads, -, rfl⟩ := denotes_iff.mp denotes
  obtain ⟨second, again, -, rfl⟩ := denotes_iff.mp also
  cases reads.symm.trans again
  rfl

theorem isInteger_iff_denotes {number : ℤ} : value.IsInteger number ↔ value.Denotes number :=
  denotes_iff.symm

/-- Finite decimals of one number have the same integer, if they have one. -/
theorem wholeNumber_congr {first second : Decimal} (finite : first.isFinite = true)
    (also : second.isFinite = true) (same : first.ratio = second.ratio) :
    wholeNumber first = wholeNumber second := by
  cases first with
  | infinite negative => cases finite
  | nan negative signaling payload => cases finite
  | finite n a e =>
  cases second with
  | infinite negative => cases also
  | nan negative signaling payload => cases also
  | finite m b f =>
  refine congrArg Except.ok (Option.ext fun number => ?_)
  rw [Decimal.whole?_eq_some_iff, Decimal.whole?_eq_some_iff, same]

/-- Values of one number are asked for their integer alike. -/
theorem int?_congr {other : Value} (denotes : value.Denotes ratio) (also : other.Denotes ratio) :
    value.int? = other.int? := by
  obtain ⟨first, reads, finite, rfl⟩ := denotes_iff.mp denotes
  obtain ⟨second, again, finite', same⟩ := denotes_iff.mp also
  rw [int?_eq, int?_eq, reads, again]
  exact wholeNumber_congr finite finite' same.symm

end Value

/-! ## Verdicts on numbers -/

/-- The operators on numbers that compare with one bound, with the relations that they test. -/
def numberRelations : List (Operator × Relation) :=
  [(.equals, .equal), (.notEquals, .different), (.greaterThan, .greater), (.lessThan, .less),
    (.greaterThanOrEqual, .atLeast), (.lessThanOrEqual, .atMost)]

theorem numberRelations_test (operand : Value) : ∀ entry ∈ numberRelations,
    Operand.test .number entry.1 operand = Operand.numberTest entry.2 operand := by
  intro entry among
  fin_cases among <;> rfl

theorem numberRelations_allowed : ∀ entry ∈ numberRelations,
    entry.1 ∈ AttributeKind.number.operators ∧ entry.1.form .number = .number ∧
      entry.1.requiresPresence = true := by
  decide

theorem number_operators : ∀ operator ∈ AttributeKind.number.operators,
    operator ∈ numberRelations.map Prod.fst ∨ operator = .between := by
  decide

namespace AttributeSchema

variable {schema : AttributeSchema} {key : String} {spec : AttributeSpec} {operator : Operator}
  {operand stored : Value} {values : Fields} {today : Date}

theorem verdict_of_relation (declared : schema.get? key = some spec) (kind : spec.kind = .number)
    (found : values.getOrNull key = stored) {r q : ℚ} (has : stored.Denotes r)
    (asked : operand.Denotes q) {relation : Relation}
    (listed : (operator, relation) ∈ numberRelations) :
    schema.verdict key values today operator operand = .ok (decide (relation.Relates r q)) := by
  obtain ⟨number, reads, finite, rfl⟩ := Value.denotes_iff.mp has
  obtain ⟨bound, readsBound, bounded, rfl⟩ := Value.denotes_iff.mp asked
  have test : Operand.test spec.kind operator operand = .ok (.number relation bound) := by
    rw [kind, numberRelations_test operand _ listed, Operand.numberTest, Operand.number, readsBound]
    rfl
  have allowed : operator ∈ spec.kind.operators := kind ▸ (numberRelations_allowed _ listed).1
  rw [verdict_of_stored declared allowed found has.ne_null test rfl, Test.holds, reads]
  exact congrArg (Except.mapError _) (Relation.holdsOfNumbers_of_finite finite bounded relation)

theorem verdict_of_between (declared : schema.get? key = some spec) (kind : spec.kind = .number)
    (found : values.getOrNull key = stored) {r p q : ℚ} (has : stored.Denotes r) {low high : Value}
    (least : operand.field? "min" = some low) (most : operand.field? "max" = some high)
    (above : low.Denotes p) (below : high.Denotes q) :
    schema.verdict key values today .between operand = .ok (decide (p ≤ r ∧ r ≤ q)) := by
  obtain ⟨number, reads, finite, rfl⟩ := Value.denotes_iff.mp has
  obtain ⟨first, readsFirst, firstFinite, rfl⟩ := Value.denotes_iff.mp above
  obtain ⟨last, readsLast, lastFinite, rfl⟩ := Value.denotes_iff.mp below
  have test : Operand.test spec.kind .between operand = .ok (.between first last) := by
    have bounds : Operand.range operand = .ok (first, last) := by
      rw [Operand.range, least, most]
      dsimp only
      rw [Operand.number, readsFirst, Operand.number, readsLast]
      rfl
    rw [kind, Operand.test, bounds]
    rfl
  rw [verdict_of_stored declared (kind ▸ by decide) found has.ne_null test rfl, Test.holds, reads]
  dsimp only
  rw [Relation.holdsOfNumbers_of_finite firstFinite finite,
    Relation.holdsOfNumbers_of_finite finite lastFinite]
  change (if decide (first.ratio ≤ number.ratio) = true then
      Except.ok (decide (number.ratio ≤ last.ratio)) else .ok false).mapError _ = _
  by_cases least : first.ratio ≤ number.ratio
  · rw [if_pos (decide_eq_true least)]
    simp [least, Except.mapError]
  · rw [if_neg (by simpa using least)]
    simp [least, Except.mapError]

/-- The operators on numbers cannot tell two values of one number apart, whatever the operand. -/
theorem verdict_of_denotes (declared : schema.get? key = some spec) (kind : spec.kind = .number)
    {others : Fields} {other : Value} {r : ℚ} (found : values.getOrNull key = stored)
    (also : others.getOrNull key = other) (has : stored.Denotes r) (same : other.Denotes r)
    (allowed : operator ∈ AttributeKind.number.operators) :
    schema.verdict key values today operator operand =
      schema.verdict key others today operator operand := by
  refine verdict_congr declared (kind ▸ allowed) fun test read => ?_
  have present : (values.getOrNull key).isNull = false := Bool.eq_false_iff.mpr fun null =>
    has.ne_null (found.symm.trans (Operand.isNull_iff.mp null))
  have there : (others.getOrNull key).isNull = false := Bool.eq_false_iff.mpr fun null =>
    same.ne_null (also.symm.trans (Operand.isNull_iff.mp null))
  rw [CompiledCondition.holds, CompiledCondition.holds]
  dsimp only
  rw [present, there, Bool.and_false, if_neg Bool.false_ne_true, if_neg Bool.false_ne_true, found,
    also]
  obtain ⟨first, reads, finite, rfl⟩ := Value.denotes_iff.mp has
  obtain ⟨second, again, finite', equal⟩ := Value.denotes_iff.mp same
  have related := Relation.holdsOfNumbers_congr finite finite' equal.symm
  rw [kind] at read
  rcases number_operators operator allowed with bounded | rfl
  · obtain ⟨⟨_, relation⟩, listed, rfl⟩ := List.mem_map.mp bounded
    rw [numberRelations_test operand _ listed] at read
    obtain ⟨asked, -, rfl⟩ := Operand.Except.map_eq_ok_iff.mp read
    rw [Test.holds, Test.holds, reads, again]
    exact (related relation asked).1
  · obtain ⟨⟨low, high⟩, -, rfl⟩ := Operand.Except.map_eq_ok_iff.mp read
    rw [Test.holds, Test.holds, reads, again]
    dsimp only
    rw [(related .atMost low).2, (related .atMost high).1]

end AttributeSchema

/-- The operators on numbers compare exactly what the values denote, however they are written: a
value denotes a number if it is read as a finite decimal that is equal to it, and then the verdicts
are those of the rational numbers, the same for every value of one number. A value is asked for an
integer with success exactly if it denotes it. -/
theorem numbers_compare_exactly {schema : AttributeSchema} {key : String} {spec : AttributeSpec}
    (declared : schema.get? key = some spec) (kind : spec.kind = .number) :
    (∀ (value : Value) (r : ℚ), value.Denotes r ↔
      ∃ decimal, value.decimal? = some decimal ∧ decimal.isFinite = true ∧ decimal.ratio = r) ∧
    (∀ (values : Fields) (today : Date) (r : ℚ), (values.getOrNull key).Denotes r →
      (∀ operand q, operand.Denotes q → ∀ entry ∈ numberRelations,
        schema.verdict key values today entry.1 operand = .ok (decide (entry.2.Relates r q))) ∧
      (∀ operand low high p q, operand.field? "min" = some low → operand.field? "max" = some high →
        low.Denotes p → high.Denotes q →
          schema.verdict key values today .between operand = .ok (decide (p ≤ r ∧ r ≤ q))) ∧
      ∀ others : Fields, (others.getOrNull key).Denotes r →
        ∀ operator ∈ AttributeKind.number.operators, ∀ operand,
          schema.verdict key values today operator operand =
            schema.verdict key others today operator operand) ∧
    (∀ (first second : Value) (r : ℚ), first.Denotes r → second.Denotes r →
      first.int? = second.int?) ∧
    ∀ (value : Value) (number : ℤ), value.int? = .ok (some number) ↔ value.Denotes number := by
  refine ⟨fun value r => Value.denotes_iff, fun values today r has => ⟨?_, ?_, ?_⟩,
    fun first second r denotes also => Value.int?_congr denotes also,
    fun value number => Value.isInteger_iff.trans Value.isInteger_iff_denotes⟩
  · exact fun operand q asked entry listed =>
      AttributeSchema.verdict_of_relation declared kind rfl has asked listed
  · exact fun operand low high p q least most above below =>
      AttributeSchema.verdict_of_between declared kind rfl has least most above below
  · exact fun others also operator allowed operand =>
      AttributeSchema.verdict_of_denotes declared kind rfl rfl has also allowed

/-- A hundred and five, written with a blank, an underscore, a point and an exponent. -/
def sampleWritten : Value := .text " 1_0.50E1"

theorem sampleWritten_denotes : sampleWritten.Denotes 105 := by
  refine Value.denotes_iff.mpr ⟨.finite false 1050 (-1), by decide +kernel, rfl, ?_⟩
  rw [Decimal.ratio_eq]
  norm_num [Decimal.sign]

/-- It is the integer, equal to it, and between a hundred and itself; a negative zero is the integer
zero. -/
theorem points_compared :
    samplePoints.verdict "points" [("points", sampleWritten)] sampleDay .equals (.int 105) =
      .ok true ∧
    samplePoints.verdict "points" [("points", sampleWritten)] sampleDay .between
      (.record [("min", .decimal (.finite false 1 2)), ("max", sampleWritten)]) = .ok true ∧
    samplePoints.verdict "points" [("points", sampleWritten)] sampleDay .lessThan sampleWritten =
      samplePoints.verdict "points" [("points", .int 105)] sampleDay .lessThan sampleWritten ∧
    sampleWritten.int? = (Value.int 105).int? ∧
    (Value.decimal (.finite true 0 7)).int? = .ok (some 0) := by
  obtain ⟨-, compares, alike, integers⟩ := numbers_compare_exactly
    (rfl : samplePoints.get? "points" = some _) rfl
  have whole : (Value.int 105).Denotes 105 := .int 105
  have hundred : (Value.decimal (.finite false 1 2)).Denotes 100 := by
    refine Value.denotes_iff.mpr ⟨_, rfl, rfl, ?_⟩
    rw [Decimal.ratio_eq]
    norm_num [Decimal.sign]
  have nothing : (Value.decimal (.finite true 0 7)).Denotes (0 : ℤ) := by
    refine Value.denotes_iff.mpr ⟨_, rfl, rfl, ?_⟩
    rw [Decimal.ratio_eq]
    norm_num
  obtain ⟨relations, between, indistinct⟩ :=
    compares [("points", sampleWritten)] sampleDay 105 sampleWritten_denotes
  refine ⟨?_, ?_, indistinct [("points", .int 105)] whole .lessThan (by decide) sampleWritten,
    alike _ _ 105 sampleWritten_denotes whole, (integers _ 0).mpr nothing⟩
  · rw [relations (.int 105) 105 whole (.equals, .equal) (by decide)]
    exact congrArg Except.ok (decide_eq_true rfl)
  · rw [between _ _ _ 100 105 rfl rfl hundred sampleWritten_denotes]
    exact congrArg Except.ok (decide_eq_true (by norm_num))

end Herald
