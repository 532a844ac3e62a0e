import Herald.Proofs.Books
import Herald.Proofs.Nearest

/-! # How far stored balances drift

A column of doubles does not keep what was credited less what was deducted: every amount is rounded
when it is stored, and so is every sum and difference. As long as amounts are whole cents and there
are not too many of them, all this rounding stays far below half a cent, so that a balance is still
read at exactly what its entries add up to.
-/

namespace Herald.BalanceLedger

open Binary64

variable {σ : Type}

/-! ## Balances are nearest doubles -/

/-- A movable amount is stored as a double that something is rounded to. -/
theorem isNearest_stored {amount : Decimal} {cost : Binary64} (moves : movable amount = .ok amount)
    (stores : stored amount = .ok cost) : cost.IsNearest := by
  cases amount with
  | finite negative coefficient exponent =>
    obtain ⟨numerator, denominator, divisor, same, -⟩ := stored_nearest rfl (movable_ok moves).2
    rw [← Except.ok.inj (same.symm.trans stores)]
    exact isNearest_ofUnits divisor
  | infinite negative =>
    cases negative with
    | false =>
      cases stores
      exact isNearest_infinite
    | true => exact absurd rfl (unsigned_of_movable moves).2
  | nan negative signaling payload => cases stores

/-- A sum of nearest doubles is kept as it is. -/
theorem add?_nearest {balance cost : Binary64} (left : balance.IsNearest) (right : cost.IsNearest) :
    Amount.add? balance cost = some (balance.add cost) :=
  (left.add right).isUnsigned.column?_eq

/-- A difference from what covers it is kept as it is; there is none of two infinities. -/
theorem sub?_nearest {balance cost total : Binary64} (left : balance.IsNearest)
    (right : cost.IsNearest) (covers : Amount.covers balance cost = true)
    (takes : Amount.sub? balance cost = some total) :
    total = balance.sub cost ∧ total.IsNearest := by
  suffices nearest : (balance.sub cost).IsNearest by
    have kept : (balance.sub cost).column? = some total := takes
    rw [nearest.isUnsigned.column?_eq] at kept
    cases kept
    exact ⟨rfl, nearest⟩
  rcases left.isUnsigned with ⟨u, rfl⟩ | rfl <;> rcases right.isUnsigned with ⟨v, rfl⟩ | rfl
  · rw [sub_units (by simpa [Amount.covers, Binary64.le, signedUnits] using covers)]
    exact isNearest_ofUnits one_pos
  · cases covers
  · exact isNearest_infinite
  · cases takes

/-- What is moved leaves a nearest double. -/
theorem Transfer.isNearest {kind : Kind} {balance : Option Binary64} {cost total : Binary64}
    (transfer : Transfer cost kind balance total) (nearest : cost.IsNearest)
    (before : ∀ amount ∈ balance, amount.IsNearest) : total.IsNearest := by
  cases transfer with
  | opened => exact nearest
  | credited adds | refunded adds =>
    have left := before _ rfl
    rw [add?_nearest left nearest] at adds
    cases adds
    exact left.add nearest
  | deducted covers takes => exact (sub?_nearest (before _ rfl) nearest covers takes).2

/-- Every balance is a double that something was rounded to. -/
def Kept (store : Store Binary64) : Prop :=
  ∀ tenant, ∀ amount ∈ account store tenant, amount.IsNearest

theorem kept_afterCalls (world : World σ Binary64) (calls : List Call) :
    Kept (afterCalls (unfunded world) calls).store := by
  induction calls using List.reverseRecOn with
  | nil => 
    intro tenant amount held
    cases held
  | append_singleton calls call kept =>
    rw [afterCalls_snoc]
    rcases call.steps (inOrder_afterCalls world calls) with ⟨same, -⟩ |
      ⟨amount, cost, total, -, moves, stores, -, transfer, accounts⟩
    · rw [same]
      exact kept
    · intro tenant amount held
      rw [accounts] at held
      by_cases own : tenant = call.tenant
      · subst own
        rw [Function.update_self] at held
        cases held
        exact transfer.isNearest (isNearest_stored moves stores) (kept call.tenant)
      · rw [Function.update_of_ne own] at held
        exact kept tenant amount held

/-! ## What rounding loses -/

/-- A whole number of units is rounded by at most one part in `2 ^ 53`. -/
theorem rounded_near (units : ℕ) :
    |(finite false (roundUnits units 1)).ratio - (finite false units).ratio| ≤
      (finite false units).ratio / 2 ^ 53 := by
  have one := one_units_pos
  have near := @roundUnits_near units 1 one_pos (.inl rfl)
  rw [ratio_finite, ratio_finite]
  generalize Number.twoPow unitBits = unit at *
  rw [Nat.cast_one, div_one] at near
  rw [← sub_div, abs_div, abs_of_pos one, div_le_iff₀ one]
  exact near.trans_eq (by field_simp)

/-- A sum is rounded once. -/
theorem exists_sum_near {u v : ℕ}
    (few : (finite false u).ratio + (finite false v).ratio ≤ 2 ^ 100) :
    ∃ sum, (finite false u).add (finite false v) = finite false sum ∧
      |(finite false sum).ratio - ((finite false u).ratio + (finite false v).ratio)| ≤
        ((finite false u).ratio + (finite false v).ratio) / 2 ^ 53 := by
  have adds : (finite false u).ratio + (finite false v).ratio = (finite false (u + v)).ratio := by
    simp only [ratio_finite, Nat.cast_add, add_div]
  rw [adds] at few ⊢
  obtain ⟨sum, same, -⟩ := @ofUnits_near (u + v) 1 one_pos (.inl rfl) (by
    rw [Nat.cast_one, div_one]
    exact (div_le_iff₀ one_units_pos).mp few)
  rw [add_units, same, ← (units_of_finite same).1]
  exact ⟨_, rfl, rounded_near (u + v)⟩

/-- A difference is rounded once. -/
theorem exists_rest_near {u v : ℕ} (nearest : (finite false u).IsNearest) (le : v ≤ u) :
    ∃ rest, (finite false u).sub (finite false v) = finite false rest ∧
      |(finite false rest).ratio - ((finite false u).ratio - (finite false v).ratio)| ≤
        ((finite false u).ratio - (finite false v).ratio) / 2 ^ 53 := by
  have takes : (finite false u).ratio - (finite false v).ratio = (finite false (u - v)).ratio := by
    simp only [ratio_finite, Nat.cast_sub le, sub_div]
  obtain ⟨same, fits⟩ := units_of_finite nearest.ofUnits_eq
  have less : roundUnits (u - v) 1 < overflowUnits := by
    refine lt_of_le_of_lt ?_ fits
    conv_rhs => rw [← same]
    exact roundUnits_mono one_pos one_pos (by omega)
  rw [takes, sub_units le, ofUnits, if_pos less]
  exact ⟨_, rfl, rounded_near (u - v)⟩

/-- A stored amount, unless it is a part of a cent, is rounded once. -/
theorem exists_stored_near {amount : Decimal} {cost : Binary64} (finite : amount.isFinite = true)
    (unsigned : 0 ≤ amount.ratio) (whole : amount.ratio = 0 ∨ 1 / 100 ≤ amount.ratio)
    (few : amount.ratio ≤ 2 ^ 100) (stores : stored amount = .ok cost) :
    ∃ units, cost = .finite false units ∧
      |(Binary64.finite false units).ratio - amount.ratio| ≤ amount.ratio / 2 ^ 53 := by
  obtain ⟨numerator, denominator, divisor, same, value⟩ := stored_nearest finite unsigned
  rw [← Except.ok.inj (same.symm.trans stores)]
  rcases whole with none | large
  · rw [none, zero_mul, zero_mul, Nat.cast_eq_zero] at value
    refine ⟨0, ofUnits_of_vanishing divisor (by omega), ?_⟩
    rw [none, ratio_finite, Nat.cast_zero, zero_div, sub_zero, abs_zero, zero_div]
  · exact ratio_near divisor value large few

/-! ## What a deduction compares -/

/-- What the column holds for a tenant; nothing without a row. -/
def holding (store : Store Binary64) (tenant : String) : ℚ :=
  ((account store tenant).map Binary64.ratio).getD 0

/-- A balance that can be read is a finite double. -/
theorem exists_units_of_readable {store : Store Binary64} {tenant : String} {amount : Binary64}
    (kept : Kept store) (holds : account store tenant = some amount)
    (readable : (balanceIn store tenant).isFinite = true) :
    ∃ units, amount = finite false units := by
  rcases (kept tenant amount holds).isUnsigned with finite | rfl
  · exact finite
  · rw [balanceIn_of_account holds] at readable
    cases readable

theorem holding_nonneg {store : Store Binary64} {tenant : String} (kept : Kept store)
    (readable : (balanceIn store tenant).isFinite = true) : 0 ≤ holding store tenant := by
  rw [holding]
  cases holds : account store tenant with
  | none => exact le_rfl
  | some balance =>
    obtain ⟨units, rfl⟩ := exists_units_of_readable kept holds readable
    exact ratio_nonneg units

/-- What is read differs from what the column holds by at most half a cent. -/
theorem reading_near {store : Store Binary64} {tenant : String} (kept : Kept store)
    (readable : (balanceIn store tenant).isFinite = true) :
    |(balanceIn store tenant).ratio - holding store tenant| ≤ 1 / 200 := by
  cases holds : account store tenant with
  | none =>
    rw [balanceIn_of_absent holds, holding, holds]
    norm_num [Decimal.zero, Decimal.ratio]
  | some amount =>
    obtain ⟨units, rfl⟩ := exists_units_of_readable kept holds readable
    rw [balanceIn_of_account holds, holding, holds]
    exact readPlaces_near units

/-- A finite balance covers what it holds, and what is rounded to it. -/
theorem covers_iff_of_finite {amount : Decimal} {cost : Binary64} {units : ℕ}
    (nearest : (Binary64.finite false units).IsNearest) (finite : amount.isFinite = true)
    (unsigned : 0 ≤ amount.ratio) (stores : stored amount = .ok cost) :
    Amount.covers (Binary64.finite false units) cost = true ↔
      amount.ratio ≤ (Binary64.finite false units).ratio ∨ cost = Binary64.finite false units := by
  obtain ⟨numerator, denominator, divisor, same, value⟩ := stored_nearest finite unsigned
  obtain rfl := Except.ok.inj (same.symm.trans stores)
  constructor
  · intro covers
    rcases le_or_gt amount.ratio (Binary64.finite false units).ratio with within | beyond
    · exact .inl within
    · exact .inr ((isNearest_ofUnits divisor).le_antisymm nearest covers
        (le_ofUnits nearest divisor value beyond.le))
  · rintro (within | same)
    · exact ofUnits_le nearest divisor value within
    · rw [same]
      exact decide_eq_true le_rfl

/-- What a finite balance covers can be taken from it. -/
theorem exists_rest {units : ℕ} {cost : Binary64} (right : cost.IsNearest)
    (covers : Amount.covers (finite false units) cost = true) :
    ∃ rest, Amount.sub? (finite false units) cost = some rest := by
  rcases right.isUnsigned with ⟨v, rfl⟩ | rfl
  · have le : v ≤ units := by simpa [Amount.covers, Binary64.le, signedUnits] using covers
    refine ⟨ofUnits false (units - v) 1, ?_⟩
    change ((finite false units).sub (finite false v)).column? = _
    rw [sub_units le]
    exact (isUnsigned_ofUnits _ _).column?_eq
  · cases covers

/-- What is read goes down by what is deducted, up to a cent and the rounding of doubles. -/
theorem reading_of_rest {units : ℕ} {amount : Decimal} {cost rest : Binary64}
    (nearest : (Binary64.finite false units).IsNearest) (finite : amount.isFinite = true)
    (unsigned : 0 ≤ amount.ratio) (stores : stored amount = .ok cost)
    (covers : Amount.covers (Binary64.finite false units) cost = true)
    (takes : Amount.sub? (Binary64.finite false units) cost = some rest) :
    |(Amount.read pricePlaces rest).ratio -
      ((Amount.read pricePlaces (Binary64.finite false units)).ratio - amount.ratio)| ≤
        1 / 100 + ((Binary64.finite false units).ratio + amount.ratio + 1) / 2 ^ 53 := by
  obtain ⟨numerator, denominator, divisor, same, value⟩ := stored_nearest finite unsigned
  have kept := isNearest_ofUnits (a := numerator) divisor
  have off := fun v => ratio_off (u := v) divisor value unsigned
  rw [Except.ok.inj (same.symm.trans stores)] at kept off
  rcases kept.isUnsigned with ⟨v, rfl⟩ | rfl
  · have le : v ≤ units := by simpa [Amount.covers, Binary64.le, signedUnits] using covers
    obtain ⟨w, difference, rounded⟩ := exists_rest_near nearest le
    obtain ⟨rfl, -⟩ := sub?_nearest nearest kept covers takes
    rw [difference]
    have before := abs_le.mp (readPlaces_near units)
    have after := abs_le.mp (readPlaces_near w)
    have cost := abs_le.mp (off v rfl)
    have rounded := abs_le.mp rounded
    have above := ratio_nonneg v
    change |(readPlaces 2 (Binary64.finite false w)).ratio -
      ((readPlaces 2 (Binary64.finite false units)).ratio - amount.ratio)| ≤ _
    rw [abs_le]
    constructor
    · linarith only [before, after, cost, rounded, above]
    · linarith only [before, after, cost, rounded, above]
  · cases covers

/-- A deduction from a balance that can be read is made if the column holds the amount, or if the
amount is rounded to all that it holds. -/
theorem deduct_pays {world : World σ Binary64} (inOrder : InOrder world) (kept : Kept world.store)
    {tenant : String} {value : Value} {amount : Decimal} (gives : given value = .ok amount)
    (finite : amount.isFinite = true) (unsigned : 0 ≤ amount.ratio)
    (readable : (balanceIn world.store tenant).isFinite = true) :
    Ends (Call.run ⟨.deduct, tenant, value⟩) world fun result after =>
      ∃ paid, result = .ok (.deducted paid) ∧
        (paid = true ↔ amount.ratio ≤ holding world.store tenant ∨
          ∃ balance ∈ account world.store tenant, stored amount = .ok balance) ∧
        if paid then
          |(balanceIn after.store tenant).ratio -
            ((balanceIn world.store tenant).ratio - amount.ratio)| ≤
              1 / 100 + (holding world.store tenant + amount.ratio + 1) / 2 ^ 53
        else after = world := by
  let call : Call := ⟨.deduct, tenant, value⟩
  refine (call.ends inOrder.created inOrder.single).mono fun result after ends => ?_
  rw [call.moved_of_finite gives finite unsigned] at ends
  change EndsAs world tenant (settle amount _ .deduct) _ after at ends
  rw [settle] at ends
  by_cases zero : amount.isZero = true
  · rw [if_pos zero] at ends
    have above := holding_nonneg kept readable
    obtain ⟨told, rfl⟩ := ends
    refine ⟨true, told, iff_of_true rfl (.inl ?_), ?_⟩
    · rwa [Decimal.ratio_of_isZero zero]
    · rw [if_pos rfl, Decimal.ratio_of_isZero zero, sub_zero, sub_self, abs_zero]
      positivity
  · have some : 0 < amount.ratio :=
      unsigned.lt_of_ne fun none => zero (Decimal.isZero_of_ratio finite none.symm)
    obtain ⟨numerator, denominator, divisor, stores, -⟩ := stored_nearest finite unsigned
    have rounded := isNearest_ofUnits (a := numerator) divisor
    generalize ofUnits false numerator denominator = cost at stores rounded
    rw [if_neg zero, stores] at ends
    rw [stores, holding]
    cases holds : account world.store tenant with
    | none =>
      rw [holds] at ends
      refine ⟨false, ends.1, iff_of_false Bool.false_ne_true ?_, ends.2⟩
      rintro (within | ⟨balance, member, -⟩)
      · exact some.not_ge within
      · cases member
    | some balance =>
      obtain ⟨units, rfl⟩ := exists_units_of_readable kept holds readable
      rw [holds] at ends
      change EndsAs world tenant (if Amount.covers _ cost = true then _ else _) _ after at ends
      have nearest := kept tenant _ holds
      have compares := covers_iff_of_finite nearest finite unsigned stores
      by_cases covers : Amount.covers (Binary64.finite false units) cost = true
      · obtain ⟨rest, takes⟩ := exists_rest rounded covers
        rw [if_pos covers, takes] at ends
        refine ⟨true, ends.1, iff_of_true rfl ?_, ?_⟩
        · exact (compares.mp covers).imp_right fun same => ⟨_, rfl, congrArg Except.ok same⟩
        · obtain ⟨-, -, -, accounts⟩ := ends
          have left := congrFun accounts tenant
          rw [Function.update_self] at left
          rw [if_pos rfl, balanceIn_of_account left, balanceIn_of_account holds]
          exact reading_of_rest nearest finite unsigned stores covers takes
      · rw [if_neg covers] at ends
        refine ⟨false, ends.1, iff_of_false Bool.false_ne_true fun pays => covers ?_, ends.2⟩
        refine compares.mpr (pays.imp_right ?_)
        rintro ⟨balance, member, same⟩
        cases member
        exact Except.ok.inj same

/-! ## Drift -/

/-- A balance within a distance of what it should be. -/
def Near (slack worth : ℚ) : Option Binary64 → Prop
  | none => worth = 0
  | some balance =>
    ∃ units, balance = finite false units ∧ |(finite false units).ratio - worth| ≤ slack

theorem Near.mono {slack wider worth : ℚ} {balance : Option Binary64}
    (near : Near slack worth balance) (le : slack ≤ wider) : Near wider worth balance := by
  cases balance with
  | none => exact near
  | some balance =>
    obtain ⟨units, same, close⟩ := near
    exact ⟨units, same, close.trans le⟩

/-- What a balance below `2 ^ 60` covers is below `2 ^ 60`, which is a double. -/
theorem lt_of_covers {units : ℕ} {amount : Decimal} {cost : Binary64}
    (finite : amount.isFinite = true) (unsigned : 0 ≤ amount.ratio)
    (stores : stored amount = .ok cost) (few : (Binary64.finite false units).ratio < 2 ^ 60)
    (covers : Amount.covers (Binary64.finite false units) cost = true) : amount.ratio < 2 ^ 60 := by
  have bound : ∃ large, ofUnits false large 1 = .finite false large ∧
      large = Number.twoPow 60 * Number.twoPow unitBits := ⟨_, reach.power, rfl⟩
  obtain ⟨large, exact, value⟩ := bound
  have nearest : (Binary64.finite false large).IsNearest := ⟨_, 1, one_pos, exact.symm⟩
  have worth : (Binary64.finite false large).ratio = 2 ^ 60 := by
    have power : ((Number.twoPow 60 : ℕ) : ℚ) = 2 ^ 60 := by norm_num [Number.twoPow]
    rw [ratio_finite, value, Nat.cast_mul, mul_div_cancel_right₀ _ one_units_pos.ne', power]
  obtain ⟨numerator, denominator, divisor, same, quotient⟩ := stored_nearest finite unsigned
  rw [← Except.ok.inj (same.symm.trans stores)] at covers
  by_contra beyond
  have below := le_ofUnits nearest divisor quotient (worth.trans_le (not_lt.mp beyond))
  have between := le_trans_of_isUnsigned nearest.isUnsigned below covers
  have le : large ≤ units := by simpa [Binary64.le, signedUnits] using between
  have ratios : (Binary64.finite false large).ratio ≤ (Binary64.finite false units).ratio := by
    rw [ratio_finite, ratio_finite]
    exact div_le_div_of_nonneg_right (Nat.cast_le.mpr le) one_units_pos.le
  exact absurd few (not_lt.mpr (worth.symm.trans_le ratios))

section Rounding

variable {before paid after worth amount slack limit : ℚ}
  (close : |before - worth| ≤ slack) (near : |paid - amount| ≤ amount / 2 ^ 53)
  (unsigned : 0 ≤ before) (small : 2 * slack ≤ limit)

include close near small

include unsigned in
/-- Storing an amount and adding it to a balance is off by at most one part in `2 ^ 51`. -/
theorem sum_off (rounded : |after - (before + paid)| ≤ (before + paid) / 2 ^ 53)
    (within : worth + amount ≤ limit) : |after - (worth + amount)| ≤ slack + limit / 2 ^ 51 := by
  rw [abs_le] at close near rounded ⊢
  constructor
  · linarith only [close, near, rounded, unsigned, small, within]
  · linarith only [close, near, rounded, unsigned, small, within]

/-- Storing an amount and taking it from a balance is off by at most one part in `2 ^ 51`. -/
theorem rest_off (rounded : |after - (before - paid)| ≤ (before - paid) / 2 ^ 53)
    (within : worth ≤ limit) : |after - (worth - amount)| ≤ slack + limit / 2 ^ 51 := by
  rw [abs_le] at close near rounded ⊢
  constructor
  · linarith only [close, near, rounded, small, within]
  · linarith only [close, near, rounded, small, within]

end Rounding

/-- What is moved is rounded when it is stored and once more with the balance, so it is off by at
most one part in `2 ^ 51` of a limit for all that is moved. -/
theorem Transfer.near {kind : Kind} {balance : Option Binary64} {cost total : Binary64}
    {amount : Decimal} {worth slack limit : ℚ} (transfer : Transfer cost kind balance total)
    (finite : amount.isFinite = true) (unsigned : 0 ≤ amount.ratio)
    (whole : amount.ratio = 0 ∨ 1 / 100 ≤ amount.ratio) (stores : stored amount = .ok cost)
    (kept : ∀ held ∈ balance, held.IsNearest) (before : Near slack worth balance)
    (within : worth ≤ limit) (after : worth + kind.signed amount.ratio ≤ limit)
    (few : limit ≤ 2 ^ 50) (small : 2 * slack ≤ limit) (loose : 0 ≤ slack) :
    Near (slack + limit / 2 ^ 51) (worth + kind.signed amount.ratio) (some total) := by
  have nearest : cost.IsNearest := isNearest_stored
    ((movable_of_finite finite).trans (if_neg unsigned.not_gt)) stores
  have stored_near := fun most => exists_stored_near finite unsigned whole most stores
  cases transfer with
  | opened =>
    obtain rfl : worth = 0 := before
    change 0 + amount.ratio ≤ limit at after
    obtain ⟨units, rfl, near⟩ := stored_near (by linarith only [after, few])
    refine ⟨units, rfl, ?_⟩
    change |_ - (0 + amount.ratio)| ≤ _
    rw [zero_add] at after ⊢
    linarith only [near, after, loose, unsigned]
  | credited adds | refunded adds =>
    obtain ⟨u, rfl, close⟩ := before
    change worth + amount.ratio ≤ limit at after
    have above := ratio_nonneg u
    have bounds := abs_le.mp close
    obtain ⟨v, rfl, near⟩ := stored_near (by linarith only [after, few, small, bounds, above])
    have paid := abs_le.mp near
    obtain ⟨w, same, rounded⟩ := exists_sum_near (u := u) (v := v)
      (by linarith only [after, few, small, bounds, above, paid])
    rw [add?_nearest (kept _ rfl) nearest, same] at adds
    cases adds
    exact ⟨w, rfl, sum_off close near above small rounded after⟩
  | deducted covers takes =>
    obtain ⟨u, rfl, close⟩ := before
    have above := ratio_nonneg u
    have bounds := abs_le.mp close
    have most := lt_of_covers finite unsigned stores
      (by linarith only [bounds, within, few, small]) covers
    obtain ⟨v, rfl, near⟩ := stored_near (by linarith only [most])
    have le : v ≤ u := by simpa [Amount.covers, Binary64.le, signedUnits] using covers
    obtain ⟨w, same, rounded⟩ := exists_rest_near (kept _ rfl) le
    obtain ⟨rfl, -⟩ := sub?_nearest (kept _ rfl) nearest covers takes
    rw [Kind.signed, ← sub_eq_add_neg]
    exact ⟨w, same, rest_off close near small rounded within⟩

end Herald.BalanceLedger
