import Herald.Proofs.Drift

/-! # Checks before deductions

A check compares an amount with what is read as the balance, and a deduction compares it with what
the column holds. The two differ by the rounding of the column to whole cents and by the drift of
its doubles. So a check and a deduction agree but for amounts between the two; with whole cents only
one such amount is left, the whole balance.
-/

namespace Herald.BalanceLedger

open Binary64

variable {σ : Type}

/-! ## Whole cents -/

/-- A call for whole cents. -/
def Call.IsWhole (call : Call) : Prop :=
  ∃ amount cents, given call.amount = .ok amount ∧ amount.IsCents cents

/-- Cents that are not below zero are none or at least one. -/
theorem zero_or_cent {number : ℚ} {cents : ℤ} (same : number = cents / 100)
    (unsigned : 0 ≤ number) : number = 0 ∨ 1 / 100 ≤ number := by
  subst same
  have unsigned : 0 ≤ cents := by
    by_contra below
    have below : (cents : ℚ) < 0 := by exact_mod_cast not_le.mp below
    linarith only [below, unsigned]
  rcases unsigned.eq_or_lt with rfl | some
  · simp
  · right
    have one : (1 : ℚ) ≤ cents := by exact_mod_cast some
    linarith only [one]

/-- What whole cents have moved is whole cents. -/
theorem turnover_whole {entries : List Entry}
    (whole : ∀ entry ∈ entries, ∃ cents : ℤ, entry.worth = cents / 100) (kind : Kind)
    (tenant : String) : ∃ cents : ℤ, turnover kind tenant entries = cents / 100 := by
  rw [turnover]
  generalize among : entries.filter _ = rows
  have whole : ∀ entry ∈ rows, ∃ cents : ℤ, entry.worth = cents / 100 := by
    intro entry member
    subst among
    exact whole entry (List.mem_of_mem_filter member)
  clear among
  induction rows with
  | nil => exact ⟨0, by simp⟩
  | cons entry rest ih =>
    rw [List.forall_mem_cons] at whole
    obtain ⟨first, worth⟩ := whole.1
    obtain ⟨others, sum⟩ := ih whole.2
    refine ⟨first + others, ?_⟩
    rw [List.map_cons, List.sum_cons, worth, sum]
    push_cast
    ring

theorem Call.IsWhole.worth {call : Call} (whole : call.IsWhole) (world : World σ Binary64) :
    ∃ cents : ℤ, (call.entry world).worth = cents / 100 := by
  obtain ⟨amount, cents, gives, is⟩ := whole
  refine ⟨cents, ?_⟩
  rw [Entry.worth, show (call.entry world).call = call from rfl, gives]
  exact is.ratio_eq

theorem worth_whole_transcript (world : World σ Binary64) {calls : List Call}
    (whole : ∀ call ∈ calls, call.IsWhole) :
    ∀ entry ∈ transcript world calls, ∃ cents : ℤ, entry.worth = cents / 100 := by
  induction calls generalizing world with
  | nil => exact List.forall_mem_nil _
  | cons call rest ih =>
    rw [List.forall_mem_cons] at whole
    rw [transcript, List.forall_mem_cons]
    exact ⟨whole.1.worth world, ih _ whole.2⟩

/-- What a tenant's entries leave is whole cents. -/
theorem net_whole (world : World σ Binary64) {calls : List Call}
    (whole : ∀ call ∈ calls, call.IsWhole) (tenant : String) :
    ∃ cents : ℤ, net tenant (transcript world calls) = cents / 100 := by
  have worths := worth_whole_transcript world whole
  obtain ⟨credits, credited⟩ := turnover_whole worths .credit tenant
  obtain ⟨refunds, refunded⟩ := turnover_whole worths .refund tenant
  obtain ⟨deductions, deducted⟩ := turnover_whole worths .deduct tenant
  refine ⟨credits + refunds - deductions, ?_⟩
  rw [net, credited, refunded, deducted]
  push_cast
  ring

/-! ## Drift through a run -/

/-- What has come into the balance of a tenant. -/
def income (tenant : String) (entries : List Entry) : ℚ :=
  turnover .credit tenant entries + turnover .refund tenant entries

section Income

variable {entries : List Entry}
  (unsigned : ∀ entry ∈ entries, entry.counts = true → 0 ≤ entry.worth) (tenant : String)

include unsigned

theorem income_nonneg : 0 ≤ income tenant entries :=
  add_nonneg (turnover_nonneg unsigned _ tenant) (turnover_nonneg unsigned _ tenant)

/-- No more is left than has come in. -/
theorem net_le_income : net tenant entries ≤ income tenant entries :=
  sub_le_self _ (turnover_nonneg unsigned _ tenant)

end Income

theorem income_append (tenant : String) (entries more : List Entry) :
    income tenant (entries ++ more) = income tenant entries + income tenant more := by
  simp only [income, turnover_append]
  ring

/-- Each call of a run loses at most one part in `2 ^ 51` of all that has come in. -/
theorem near_afterCalls (world : World σ Binary64) (tenant : String) {limit : ℚ}
    (few : limit ≤ 2 ^ 50) {calls : List Call} (whole : ∀ call ∈ calls, call.IsWhole)
    (small : 2 * (calls.length * (limit / 2 ^ 51)) ≤ limit)
    (within : income tenant (transcript (unfunded world) calls) ≤ limit) :
    Near (calls.length * (limit / 2 ^ 51)) (net tenant (transcript (unfunded world) calls))
      (account (afterCalls (unfunded world) calls).store tenant) := by
  induction calls using List.reverseRecOn with
  | nil => simp [Near, transcript, net, turnover, account, row?, unfunded]
  | append_singleton calls call ih =>
    have unsigned := worth_nonneg_transcript world (calls ++ [call])
    have above := (income_nonneg unsigned tenant).trans within
    have after := (net_le_income unsigned tenant).trans within
    have step : 0 ≤ limit / 2 ^ 51 := by positivity
    rw [List.forall_mem_append, List.forall_mem_singleton] at whole
    rw [transcript_snoc, List.forall_mem_append] at unsigned
    rw [transcript_snoc, net_snoc] at after
    rw [transcript_snoc, income_append] at within
    rw [List.length_append, List.length_singleton, Nat.cast_add, Nat.cast_one, add_mul,
      one_mul] at small ⊢
    rw [transcript_snoc, net_snoc, afterCalls_snoc]
    have earlier : income tenant (transcript (unfunded world) calls) ≤ limit :=
      (le_add_of_nonneg_right (income_nonneg unsigned.2 tenant)).trans within
    have loose : 0 ≤ calls.length * (limit / 2 ^ 51) := mul_nonneg (Nat.cast_nonneg _) step
    have less : 2 * (calls.length * (limit / 2 ^ 51)) ≤ limit := by linarith only [small, step]
    have near := ih whole.1 less earlier
    have before := (net_le_income unsigned.1 tenant).trans earlier
    rcases call.steps (inOrder_afterCalls world calls) with ⟨same, nothing⟩ |
      ⟨amount, cost, total, gives, moves, stores, counts, transfer, accounts⟩
    · rw [same, Entry.gain_of_nothing nothing, add_zero]
      exact near.mono (le_add_of_nonneg_right step)
    · rw [accounts]
      by_cases own : tenant = call.tenant
      · subst own
        rw [Function.update_self]
        rw [Entry.gain_of_counts counts] at after ⊢
        obtain ⟨own, cents, given, is⟩ := whole.2
        obtain rfl := Except.ok.inj (given.symm.trans gives)
        have worth : (call.entry (afterCalls (unfunded world) calls)).worth = own.ratio := by
          rw [Entry.worth, show (call.entry _).call = call from rfl, gives]
        rw [worth] at after ⊢
        exact transfer.near is.finite (movable_ok moves).2
          (zero_or_cent is.ratio_eq (movable_ok moves).2) stores
          (kept_afterCalls world calls call.tenant) near before after few less loose
      · rw [Function.update_of_ne own, Entry.gain_of_other own, add_zero]
        exact near.mono (le_add_of_nonneg_right step)

/-! ## What is read and what is held -/

/-- A balance that is within half a cent of whole cents is read as these. -/
theorem Near.reading {slack : ℚ} {cents : ℤ} {store : Store Binary64} {tenant : String}
    (near : Near slack (cents / 100) (account store tenant)) (tight : slack < 1 / 200) :
    (balanceIn store tenant).isFinite = true ∧ (balanceIn store tenant).ratio = cents / 100 := by
  cases holds : account store tenant with
  | none =>
    rw [holds] at near
    rw [balanceIn_of_absent holds, show (cents : ℚ) / 100 = 0 from near]
    exact ⟨rfl, Decimal.ratio_of_isZero rfl⟩
  | some balance =>
    rw [holds] at near
    obtain ⟨units, rfl, close⟩ := near
    rw [balanceIn_of_account holds]
    refine ⟨rfl, ?_⟩
    have off := abs_le.mp (readPlaces_near units)
    have close := abs_le.mp close
    change (readPlaces 2 (finite false units)).ratio = _
    rw [readPlaces_ratio] at off ⊢
    generalize scaledUnits 2 units = scaled at off ⊢
    have low : (cents : ℚ) < scaled + 1 := by linarith only [off, close, tight]
    have high : (scaled : ℚ) < cents + 1 := by linarith only [off, close, tight]
    have low : cents < scaled + 1 := by exact_mod_cast low
    have high : (scaled : ℤ) < cents + 1 := by exact_mod_cast high
    have same : cents = scaled := by omega
    rw [same, Int.cast_natCast]

theorem Near.holding {slack worth : ℚ} {store : Store Binary64} {tenant : String}
    (near : Near slack worth (account store tenant)) (loose : 0 ≤ slack) :
    |BalanceLedger.holding store tenant - worth| ≤ slack := by
  rw [BalanceLedger.holding]
  cases holds : account store tenant with
  | none =>
    rw [holds] at near
    rw [show worth = 0 from near]
    simpa using loose
  | some balance =>
    rw [holds] at near
    obtain ⟨units, rfl, close⟩ := near
    exact close

/-- Of two different amounts of cents the larger one is larger by a cent. -/
theorem cent_apart {first second : ℤ} (less : (first : ℚ) / 100 < second / 100) :
    (first : ℚ) / 100 + 1 / 100 ≤ second / 100 := by
  have order : first < second := by
    have scaled : (first : ℚ) < second := by linarith only [less]
    exact_mod_cast scaled
  have next : (first : ℚ) + 1 ≤ second := by exact_mod_cast order
  linarith only [next]

/-- From a balance that has drifted by less than a quarter of a cent, a deduction of whole cents is
made exactly if they are less than what should be left, unless they are all of it. -/
theorem pays_iff_of_near {slack : ℚ} {cents left : ℤ} {amount : Decimal} {tenant : String}
    {store : Store Binary64} (is : amount.IsCents cents) (unsigned : 0 ≤ amount.ratio)
    (near : Near slack (left / 100) (account store tenant)) (loose : 0 ≤ slack)
    (tight : slack ≤ 1 / 400) (few : (left : ℚ) / 100 ≤ 2 ^ 49 / 100)
    (other : amount.ratio ≠ left / 100) :
    (amount.ratio ≤ holding store tenant ∨
      ∃ balance ∈ account store tenant, stored amount = .ok balance) ↔
      amount.ratio ≤ left / 100 := by
  have off := abs_le.mp (near.holding loose)
  rcases other.lt_or_gt with less | more
  · rw [is.ratio_eq] at less ⊢
    have apart := cent_apart less
    refine iff_of_true (.inl ?_) less.le
    linarith only [apart, off, tight]
  · refine iff_of_false ?_ more.not_ge
    have apart : (left : ℚ) / 100 + 1 / 100 ≤ amount.ratio := by
      rw [is.ratio_eq] at more ⊢
      exact cent_apart more
    rintro (within | ⟨balance, member, same⟩)
    · linarith only [apart, off, tight, within]
    · rw [Option.mem_def] at member
      rw [member] at near
      obtain ⟨units, rfl, close⟩ := near
      -- Cents that are rounded to the balance are as near to it as they are to what is left.
      have close := abs_le.mp close
      have most := lt_of_covers is.finite unsigned same (by linarith only [close, tight, few])
        (decide_eq_true le_rfl)
      obtain ⟨_, rounded, near⟩ := exists_stored_near is.finite unsigned
        (zero_or_cent is.ratio_eq unsigned) (by linarith only [most]) same
      cases rounded
      have near := abs_le.mp near
      linarith only [near, close, tight, few, apart]

section Cents

variable (world : World σ Binary64) {calls : List Call} (tenant : String)
  (whole : ∀ call ∈ calls, call.IsWhole)

include whole

/-- What has come in is whole cents, so it is nothing or at least one cent. -/
theorem income_cases : income tenant (transcript (unfunded world) calls) = 0 ∨
    1 / 100 ≤ income tenant (transcript (unfunded world) calls) := by
  have worths := worth_whole_transcript (unfunded world) whole
  obtain ⟨credits, credited⟩ := turnover_whole worths .credit tenant
  obtain ⟨refunds, refunded⟩ := turnover_whole worths .refund tenant
  have whole : income tenant (transcript (unfunded world) calls) =
      (credits + refunds : ℤ) / 100 := by
    rw [income, credited, refunded]
    push_cast
    ring
  exact zero_or_cent whole (income_nonneg (worth_nonneg_transcript world calls) tenant)

/-- In a ledger of whole cents that is not too long, balances drift by at most a quarter of a
cent. -/
theorem near_of_short (few : income tenant (transcript (unfunded world) calls) ≤ 2 ^ 50)
    (short : calls.length * (100 * income tenant (transcript (unfunded world) calls)) ≤ 2 ^ 49) :
    ∃ slack, 0 ≤ slack ∧ slack ≤ 1 / 400 ∧
      Near slack (net tenant (transcript (unfunded world) calls))
        (account (afterCalls (unfunded world) calls).store tenant) := by
  have cases := income_cases world tenant whole
  have near := near_afterCalls world tenant few whole
  generalize income tenant (transcript (unfunded world) calls) = limit at *
  have length : (0 : ℚ) ≤ calls.length := Nat.cast_nonneg _
  have unsigned : 0 ≤ limit := by
    rcases cases with rfl | some
    · exact le_rfl
    · linarith only [some]
  have small : 2 * (calls.length * (limit / 2 ^ 51)) ≤ limit := by
    rcases cases with rfl | some
    · simp
    · have many : (calls.length : ℚ) ≤ 2 ^ 49 := by nlinarith only [some, short, length]
      nlinarith only [many, unsigned]
  exact ⟨_, by positivity, by linarith only [short], near small le_rfl⟩

end Cents

/-! ## Checks and deductions -/

section Deductions

variable (world : World σ Binary64) {calls : List Call} (tenant : String)
  (whole : ∀ call ∈ calls, call.IsWhole)
  (short : (calls.length + 1) *
    (100 * income tenant (transcript (unfunded world) calls)) ≤ 2 ^ 49)

include short

theorem income_le_of_short :
    income tenant (transcript (unfunded world) calls) ≤ 2 ^ 49 / 100 := by
  have unsigned := income_nonneg (worth_nonneg_transcript world calls) tenant
  have length : (0 : ℚ) ≤ calls.length := Nat.cast_nonneg _
  nlinarith only [short, unsigned, length]

include whole

theorem drift_of_short : ∃ slack, ∃ left : ℤ, 0 ≤ slack ∧ slack ≤ 1 / 400 ∧
    net tenant (transcript (unfunded world) calls) = left / 100 ∧
    Near slack (left / 100) (account (afterCalls (unfunded world) calls).store tenant) := by
  have few := income_le_of_short world tenant short
  have unsigned := income_nonneg (worth_nonneg_transcript world calls) tenant
  obtain ⟨slack, loose, tight, near⟩ := near_of_short world tenant whole (by linarith only [few])
    (by linarith only [short, unsigned])
  obtain ⟨left, same⟩ := net_whole (unfunded world) whole tenant
  exact ⟨slack, left, loose, tight, same, same ▸ near⟩

/-- One more deduction leaves a ledger that is short enough to be read exactly. -/
theorem reading_after_deduction {value : Value} (more : Call.IsWhole ⟨.deduct, tenant, value⟩) :
    (balanceIn ((Call.run ⟨.deduct, tenant, value⟩).worldAfter
      (afterCalls (unfunded world) calls)).store tenant).ratio =
        net tenant (transcript (unfunded world) calls) +
          Entry.gain tenant
            (Call.entry ⟨.deduct, tenant, value⟩ (afterCalls (unfunded world) calls)) := by
  let call : Call := ⟨.deduct, tenant, value⟩
  have whole' : ∀ other ∈ calls ++ [call], other.IsWhole := by
    rw [List.forall_mem_append, List.forall_mem_singleton]
    exact ⟨whole, more⟩
  have same : income tenant (transcript (unfunded world) (calls ++ [call])) =
      income tenant (transcript (unfunded world) calls) := by
    rw [transcript_snoc, income_append, add_eq_left]
    simp [income, turnover, Call.entry, call]
  have few := income_le_of_short world tenant short
  obtain ⟨slack, -, tight, near⟩ := near_of_short world tenant whole'
    (by rw [same]; linarith only [few])
    (by rwa [same, List.length_append, List.length_singleton, Nat.cast_add, Nat.cast_one])
  obtain ⟨left, cents⟩ := net_whole (unfunded world) whole' tenant
  rw [← net_snoc, ← transcript_snoc, ← afterCalls_snoc]
  rw [cents] at near ⊢
  exact (near.reading (by linarith only [tight])).2

end Deductions

/-- A check and the deduction right after it agree, but for amounts between what is read as the
balance and what its column holds, which differ by at most half a cent; and what is read goes down
by what is deducted, up to a cent. In a ledger of whole cents that is not too long, the balance is
read at what its entries leave, both agree for every amount but the whole balance, and what is read
goes down by exactly what is deducted. -/
theorem check_agrees_within_rounding (world : World σ Binary64) (calls : List Call)
    (tenant : String) {value : Value} {amount : Decimal} (gives : given value = .ok amount)
    (finite : amount.isFinite = true) (unsigned : 0 ≤ amount.ratio) :
    let now := afterCalls (unfunded world) calls
    let entries := transcript (unfunded world) calls
    let left := (balanceIn now.store tenant).ratio
    ((balanceIn now.store tenant).isFinite = true →
      Ends (isSufficient tenant amount) now (fun checked after =>
        after = now ∧ checked = .ok (decide (amount.ratio ≤ left))) ∧
      Ends (Call.run ⟨.deduct, tenant, value⟩) now (fun told after =>
        ∃ paid, told = .ok (.deducted paid) ∧
          (paid = true ↔ amount.ratio ≤ holding now.store tenant ∨
            ∃ balance ∈ account now.store tenant, stored amount = .ok balance) ∧
          if paid then
            |(balanceIn after.store tenant).ratio - (left - amount.ratio)| ≤
              1 / 100 + (holding now.store tenant + amount.ratio + 1) / 2 ^ 53
          else after = now) ∧
      |left - holding now.store tenant| ≤ 1 / 200) ∧
    ((∀ call ∈ calls, call.IsWhole) → (∃ cents, amount.IsCents cents) →
      (calls.length + 1) * (100 * income tenant entries) ≤ 2 ^ 49 →
      (balanceIn now.store tenant).isFinite = true ∧ left = net tenant entries ∧
      Ends (Call.run ⟨.deduct, tenant, value⟩) now fun told after =>
        ∃ paid, told = .ok (.deducted paid) ∧
          (amount.ratio ≠ left → paid = decide (amount.ratio ≤ left)) ∧
          (balanceIn after.store tenant).ratio = if paid then left - amount.ratio else left) := by
  intro now entries left
  have inOrder : InOrder now := inOrder_afterCalls world calls
  have kept : Kept now.store := kept_afterCalls world calls
  constructor
  · intro readable
    exact ⟨isSufficient_ends inOrder.created finite unsigned readable,
      deduct_pays inOrder kept gives finite unsigned readable, reading_near kept readable⟩
  · rintro whole ⟨cents, is⟩ short
    obtain ⟨slack, rest, loose, tight, same, near⟩ := drift_of_short world tenant whole short
    obtain ⟨readable, reads⟩ := near.reading (by linarith only [tight])
    have reads : left = rest / 100 := reads
    refine ⟨readable, reads.trans same.symm, ?_⟩
    obtain ⟨paid, told, pays, -⟩ := deduct_pays inOrder kept gives finite unsigned readable
    have after := reading_after_deduction world tenant whole short ⟨amount, cents, gives, is⟩
    refine ⟨paid, told, fun other => ?_, after.trans ?_⟩
    · have few := (net_le_income (worth_nonneg_transcript world calls) tenant).trans
        (income_le_of_short world tenant short)
      rw [same] at few
      rw [reads] at other ⊢
      have iff := pays.trans (pays_iff_of_near is unsigned near loose tight few other)
      exact Bool.eq_iff_iff.mpr (iff.trans decide_eq_true_iff.symm)
    · have counts : (Call.entry ⟨.deduct, tenant, value⟩ now).counts = paid := by
        rw [Entry.counts, show (Call.entry _ now).told = _ from told]
        rfl
      rw [same, ← reads]
      cases paid with
      | false =>
        rw [Entry.gain_of_nothing fun counted =>
          absurd (counts.symm.trans counted) Bool.false_ne_true, add_zero]
        rfl
      | true =>
        have worth : (Call.entry ⟨.deduct, tenant, value⟩ now).worth = amount.ratio := by
          rw [Entry.worth, show (Call.entry _ now).call.amount = value from rfl, gives]
        have gains := Entry.gain_of_counts counts
        rw [worth] at gains
        rw [show Entry.gain tenant _ = _ from gains, if_pos rfl, sub_eq_add_neg]
        rfl

namespace Sample

/-- A tenth, as it is given and as it is read. -/
def tenth : Value := .text "0.10"

/-- Three tenths have been credited and one of them deducted. -/
def tenths : List Call := [⟨.credit, "t", .text "0.30"⟩, ⟨.deduct, "t", tenth⟩]

end Sample

/-- A tenth is deducted from three tenths in a ledger that has already deducted one. -/
theorem sample_check_agrees :
    let now : World Unit Binary64 :=
      afterCalls (unfunded (World.opened Sample.dawn ())) Sample.tenths
    let left := (balanceIn now.store "t").ratio
    left = net "t" (transcript (unfunded (World.opened Sample.dawn () : World Unit Binary64))
      Sample.tenths) ∧
    Ends (Call.run ⟨.deduct, "t", Sample.tenth⟩) now fun told after =>
      ∃ paid, told = .ok (.deducted paid) ∧
        ((Decimal.finite false 10 (-2)).ratio ≠ left →
          paid = decide ((Decimal.finite false 10 (-2)).ratio ≤ left)) ∧
        (balanceIn after.store "t").ratio =
          if paid then left - (Decimal.finite false 10 (-2)).ratio else left := by
  have gives : given Sample.tenth = .ok (.finite false 10 (-2)) :=
    ok_of_toOption (by decide +kernel)
  have tenth : (Decimal.finite false 10 (-2)).IsCents 10 := ⟨rfl, by decide +kernel⟩
  have whole : ∀ call ∈ Sample.tenths, call.IsWhole := by
    rw [Sample.tenths, List.forall_mem_cons, List.forall_mem_singleton]
    constructor
    · exact ⟨.finite false 30 (-2), 30, ok_of_toOption (by decide +kernel), rfl, by decide +kernel⟩
    · exact ⟨.finite false 10 (-2), 10, gives, tenth⟩
  have agrees := check_agrees_within_rounding (World.opened Sample.dawn () : World Unit Binary64)
    Sample.tenths "t" gives rfl (by decide +kernel)
  exact (agrees.2 whole ⟨10, tenth⟩ (by decide +kernel)).2

/-- After two of three tenths have been deducted, the third one passes the check, and is refused. -/
theorem last_tenth_refused :
    let now : World Unit Binary64 := afterCalls (unfunded (World.opened Sample.dawn ()))
      (Sample.tenths ++ [⟨.deduct, "t", Sample.tenth⟩])
    (given Sample.tenth).toOption = some (.finite false 10 (-2)) ∧
    ((isSufficient "t" (.finite false 10 (-2))).run.run now).1.toOption = some true ∧
    ((Call.run ⟨.deduct, "t", Sample.tenth⟩).run.run now).1.toOption = some (.deducted false) := by
  decide +kernel

end Herald.BalanceLedger
