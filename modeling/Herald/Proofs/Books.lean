import Mathlib.Tactic.Ring
import Herald.Proofs.Accounts
import Herald.Proofs.Comparison
import Herald.Proofs.Payments

/-! # The books of the ledger

Each call of the ledger makes an entry: what was asked for, whether the tenant had a balance, and
what was told. `Call.steps` says all that a call can do: it leaves everything as it is, or it moves
its amount into or out of its tenant's account, which the entry then counts. With exact columns a
balance is therefore what its tenant's entries add up to, after any calls.
-/

namespace Herald.BalanceLedger

variable {σ α : Type} [Amount α]

/-! ## Entries -/

/-- Whether an answer says that the amount was moved, for a tenant of which it is known whether it
had a balance: a refund is lost without one. -/
def Answer.counts (known : Bool) : Answer → Bool
  | .credited _ => true
  | .deducted paid => paid
  | .refunded => known

/-- A call with what it told, and whether its tenant had a balance. -/
structure Entry where
  call : Call
  known : Bool
  told : Except Failure Answer

/-- The entry that a call makes. -/
def Call.entry (call : Call) (world : World σ α) : Entry :=
  ⟨call, (account world.store call.tenant).isSome, (call.run.run world).1⟩

/-- The entries that calls make. -/
def transcript (world : World σ α) : List Call → List Entry
  | [] => []
  | call :: rest => call.entry world :: transcript (call.run.worldAfter world) rest

theorem transcript_snoc (world : World σ α) (calls : List Call) (call : Call) :
    transcript world (calls ++ [call]) =
      transcript world calls ++ [call.entry (afterCalls world calls)] := by
  induction calls generalizing world with
  | nil => rfl
  | cons first rest ih => exact congrArg (first.entry world :: ·) (ih _)

/-- What a call of a kind adds to a balance by moving an amount. -/
def Kind.signed : Kind → ℚ → ℚ
  | .deduct, worth => -worth
  | _, worth => worth

namespace Entry

/-- Whether the amount was moved. -/
def counts (entry : Entry) : Bool :=
  match entry.told with
  | .ok answer => answer.counts entry.known
  | .error _ => false

/-- What the amount is worth. -/
def worth (entry : Entry) : ℚ :=
  match given entry.call.amount with
  | .ok amount => amount.ratio
  | .error _ => 0

/-- What an entry adds to the balance of a tenant. -/
def gain (tenant : String) (entry : Entry) : ℚ :=
  if entry.call.tenant = tenant ∧ entry.counts = true then entry.call.kind.signed entry.worth else 0

theorem gain_of_counts {call : Call} {world : World σ α}
    (counts : (call.entry world).counts = true) :
    (call.entry world).gain call.tenant = call.kind.signed (call.entry world).worth :=
  if_pos ⟨rfl, counts⟩

theorem gain_of_other {entry : Entry} {tenant : String} (other : tenant ≠ entry.call.tenant) :
    entry.gain tenant = 0 := by
  rw [gain, if_neg fun own => other own.1.symm]

theorem gain_of_nothing {entry : Entry} (nothing : entry.counts = true → entry.worth = 0)
    (tenant : String) : entry.gain tenant = 0 := by
  rw [gain]
  split
  · rename_i counted
    rw [nothing counted.2]
    cases entry.call.kind <;> simp [Kind.signed]
  · rfl

end Entry

/-- What calls of a kind have moved for a tenant. -/
def turnover (kind : Kind) (tenant : String) (entries : List Entry) : ℚ :=
  ((entries.filter fun entry =>
    entry.call.kind = kind ∧ entry.call.tenant = tenant ∧ entry.counts = true).map Entry.worth).sum

/-- What the entries leave a tenant. -/
def net (tenant : String) (entries : List Entry) : ℚ :=
  turnover .credit tenant entries + turnover .refund tenant entries -
    turnover .deduct tenant entries

theorem turnover_append (kind : Kind) (tenant : String) (entries more : List Entry) :
    turnover kind tenant (entries ++ more) =
      turnover kind tenant entries + turnover kind tenant more := by
  simp only [turnover, List.filter_append, List.map_append, List.sum_append]

/-- Entries whose amounts were moved are not below zero, so neither is what they come to. -/
theorem turnover_nonneg {entries : List Entry}
    (unsigned : ∀ entry ∈ entries, entry.counts = true → 0 ≤ entry.worth) (kind : Kind)
    (tenant : String) : 0 ≤ turnover kind tenant entries := by
  apply List.sum_nonneg
  intro worth among
  obtain ⟨entry, member, rfl⟩ := List.mem_map.mp among
  rw [List.mem_filter, decide_eq_true_eq] at member
  exact unsigned entry member.1 member.2.2.2

theorem net_snoc (tenant : String) (entries : List Entry) (entry : Entry) :
    net tenant (entries ++ [entry]) = net tenant entries + entry.gain tenant := by
  simp only [net, turnover, List.filter_append, List.map_append, List.sum_append, Entry.gain]
  by_cases counts : entry.call.tenant = tenant ∧ entry.counts = true
  · cases kind : entry.call.kind <;> simp [counts, kind, Kind.signed] <;> ring
  · cases kind : entry.call.kind <;> simp [counts, kind]

/-! ## What a call can do -/

/-- An amount goes into an account or out of it. -/
inductive Transfer (cost : α) : Kind → Option α → α → Prop
  | opened : Transfer cost .credit none cost
  | credited {balance total : α} (adds : Amount.add? balance cost = some total) :
      Transfer cost .credit (some balance) total
  | refunded {balance total : α} (adds : Amount.add? balance cost = some total) :
      Transfer cost .refund (some balance) total
  | deducted {balance total : α} (covers : Amount.covers balance cost = true)
      (takes : Amount.sub? balance cost = some total) : Transfer cost .deduct (some balance) total

/-- What is settled moves an amount, unless it is nothing. -/
theorem settle_cases {amount : Decimal} {balance : Option α} {kind : Kind} {told : Answer}
    {posted : Option α} (settled : settle amount balance kind = .ok (told, posted)) :
    (posted = none ∧ (told.counts balance.isSome = true → amount.isZero = true)) ∨
      ∃ cost total, stored amount = .ok cost ∧ posted = some total ∧
        told.counts balance.isSome = true ∧ Transfer cost kind balance total := by
  cases kind with
  | credit =>
    obtain ⟨total, raises, settled⟩ := ok_of_bind settled
    obtain ⟨cost, stores, raises⟩ := ok_of_bind raises
    cases settled
    refine .inr ⟨cost, total, stores, rfl, rfl, ?_⟩
    cases balance with
    | none =>
      cases raises
      exact .opened
    | some balance => exact .credited (held_ok raises)
  | deduct =>
    rw [settle] at settled
    by_cases zero : amount.isZero = true
    · rw [if_pos zero] at settled
      cases settled
      exact .inl ⟨rfl, fun _ => zero⟩
    · rw [if_neg zero] at settled
      obtain ⟨cost, stores, settled⟩ := ok_of_bind settled
      cases balance with
      | none =>
        cases settled
        exact .inl ⟨rfl, fun counts => absurd counts Bool.false_ne_true⟩
      | some balance =>
        dsimp only at settled
        by_cases covers : Amount.covers balance cost = true
        · rw [if_pos covers] at settled
          obtain ⟨total, takes, settled⟩ := ok_of_bind settled
          cases settled
          exact .inr ⟨cost, total, stores, rfl, rfl, .deducted covers (held_ok takes)⟩
        · rw [if_neg covers] at settled
          cases settled
          exact .inl ⟨rfl, fun counts => absurd counts Bool.false_ne_true⟩
  | refund =>
    rw [settle] at settled
    by_cases zero : amount.isZero = true
    · rw [if_pos zero] at settled
      cases settled
      exact .inl ⟨rfl, fun _ => zero⟩
    · rw [if_neg zero] at settled
      obtain ⟨cost, stores, settled⟩ := ok_of_bind settled
      cases balance with
      | none =>
        cases settled
        exact .inl ⟨rfl, fun counts => absurd counts Bool.false_ne_true⟩
      | some balance =>
        obtain ⟨total, adds, settled⟩ := ok_of_bind settled
        cases settled
        exact .inr ⟨cost, total, stores, rfl, rfl, .refunded (held_ok adds)⟩

/-- A call either leaves everything as it is, and has then moved nothing, or it moves its amount
and changes the account of its tenant alone. -/
theorem Call.steps {world : World σ α} (inOrder : InOrder world) (call : Call) :
    (call.run.worldAfter world = world ∧
      ((call.entry world).counts = true → (call.entry world).worth = 0)) ∨
    ∃ amount cost total, given call.amount = .ok amount ∧ movable amount = .ok amount ∧
      stored amount = .ok cost ∧ (call.entry world).counts = true ∧
      Transfer cost call.kind (account world.store call.tenant) total ∧
      account (call.run.worldAfter world).store =
        Function.update (account world.store) call.tenant (some total) := by
  have ends : EndsAs world call.tenant _ (call.run.run world).1 (call.run.worldAfter world) :=
    call.ends inOrder.created inOrder.single
  unfold EndsAs at ends
  split at ends
  · refine .inl ⟨ends.2, fun counts => ?_⟩
    rw [Entry.counts, show (call.entry world).told = _ from ends.1] at counts
    cases counts
  · rename_i told posted settled
    obtain ⟨result, posts⟩ := ends
    have counted : (call.entry world).counts =
        told.counts (account world.store call.tenant).isSome := by
      rw [Entry.counts, show (call.entry world).told = _ from result]
      rfl
    obtain ⟨amount, moves, settled⟩ := ok_of_bind settled
    obtain ⟨whole, gives, moves⟩ := ok_of_bind moves
    obtain ⟨rfl, -⟩ := movable_ok moves
    rcases settle_cases settled with ⟨rfl, zero⟩ | ⟨cost, total, stores, rfl, counts, transfer⟩
    · refine .inl ⟨posts, fun counts => ?_⟩
      rw [Entry.worth, show (call.entry world).call = call from rfl, gives]
      exact Decimal.ratio_of_isZero (zero (counted ▸ counts))
    · exact .inr ⟨amount, cost, total, gives, moves, stores, counted.trans counts, transfer,
        posts.2.2⟩

/-- What a call has moved is not below zero. -/
theorem Call.worth_nonneg {world : World σ α} (inOrder : InOrder world) (call : Call)
    (counts : (call.entry world).counts = true) : 0 ≤ (call.entry world).worth := by
  rcases call.steps inOrder with ⟨-, nothing⟩ | ⟨amount, _, _, gives, moves, -⟩
  · exact (nothing counts).ge
  · rw [Entry.worth, show (call.entry world).call = call from rfl, gives]
    exact (movable_ok moves).2

/-- What any calls have moved is not below zero. -/
theorem worth_nonneg_transcript (world : World σ α) (calls : List Call) :
    ∀ entry ∈ transcript (unfunded world) calls, entry.counts = true → 0 ≤ entry.worth := by
  induction calls using List.reverseRecOn with
  | nil => exact List.forall_mem_nil _
  | append_singleton calls call unsigned =>
    rw [transcript_snoc, List.forall_mem_append, List.forall_mem_singleton]
    exact ⟨unsigned, call.worth_nonneg (inOrder_afterCalls world calls)⟩

/-- A call that is refused or fails changes nothing. -/
theorem EndsAs.unchanged {world after : World σ α} {tenant : String} {kind : Kind}
    {moved : Except Failure Decimal} {balance : Option α} {result : Except Failure Answer}
    (ends : EndsAs world tenant (moved >>= fun amount => settle amount balance kind) result after)
    (idle : result = .ok (.deducted false) ∨ ∃ failure, result = .error failure) :
    after = world := by
  unfold EndsAs at ends
  split at ends
  · exact ends.2
  · rename_i told posted settled
    obtain ⟨rfl, posts⟩ := ends
    obtain ⟨amount, -, settled⟩ := ok_of_bind settled
    rcases settle_cases settled with ⟨rfl, -⟩ | ⟨cost, total, -, -, counts, -⟩
    · exact posts
    · rcases idle with refused | ⟨failure, fails⟩
      · cases refused
        cases counts
      · cases fails

omit [Amount α] in
/-- A call touches no other tenant. -/
theorem EndsAs.apart {world after : World σ α} {tenant : String}
    {settled : Except Failure (Answer × Option α)} {result : Except Failure Answer}
    (ends : EndsAs world tenant settled result after) (name : String) (other : name ≠ tenant) :
    account after.store name = account world.store name := by
  unfold EndsAs at ends
  split at ends
  · rw [ends.2]
  · rename_i told posted
    cases posted with
    | none => rw [show after = world from ends.2]
    | some amount =>
      rw [show account after.store = _ from ends.2.2.2, Function.update_of_ne other]

/-! ## Amounts that may be moved -/

/-- A finite amount may be moved unless it is below zero. -/
theorem movable_of_finite {amount : Decimal} (finite : amount.isFinite = true) :
    movable amount =
      if amount.ratio < 0 then .error (.negativeAmount amount) else .ok amount := by
  have zero : Decimal.zero.ratio = 0 := Decimal.ratio_of_isZero rfl
  obtain ⟨order, ordered, compares⟩ :=
    Decimal.order?_compares finite (rfl : Decimal.zero.isFinite = true)
  rw [zero] at compares
  rw [movable, ordered]
  cases order with
  | lt => exact (if_pos compares).symm
  | eq => exact (if_neg (Eq.symm compares).le.not_gt).symm
  | gt => exact (if_neg (lt_asymm compares)).symm

/-- A call with a finite amount that is not below zero moves that amount. -/
theorem Call.moved_of_finite (call : Call) {amount : Decimal}
    (gives : given call.amount = .ok amount) (finite : amount.isFinite = true)
    (unsigned : 0 ≤ amount.ratio) : call.moved = .ok amount := by
  rw [moved, gives]
  exact (movable_of_finite finite).trans (if_neg unsigned.not_gt)

/-- A check compares what is read as the balance. -/
theorem isSufficient_ends {world : World σ α} (created : world.store.created = true)
    {tenant : String} {amount : Decimal} (finite : amount.isFinite = true)
    (unsigned : 0 ≤ amount.ratio) (readable : (balanceIn world.store tenant).isFinite = true) :
    Ends (isSufficient tenant amount) world fun checked after => after = world ∧
      checked = .ok (decide (amount.ratio ≤ (balanceIn world.store tenant).ratio)) := by
  obtain ⟨order, ordered, compares⟩ := Decimal.order?_compares readable finite
  rw [isSufficient, ends_bind, balance, ends_query created]
  dsimp only
  rw [ends_bind, ends_pure?, movable_of_finite finite, if_neg unsigned.not_gt]
  dsimp only
  rw [ends_pure, ordered]
  refine ⟨rfl, congrArg Except.ok ?_⟩
  cases order with
  | lt => exact (decide_eq_false (not_le.mpr compares)).symm
  | eq => exact (decide_eq_true (Eq.symm compares).le).symm
  | gt => exact (decide_eq_true (le_of_lt compares)).symm

/-! ## Exact books -/

section ExactBooks

/-- What a tenant has left is what its account holds. -/
theorem balanceOf_eq_account (store : Store Exact) (tenant : String) :
    balanceOf store tenant = ((account store tenant).map Exact.value).getD 0 := by
  rw [balanceOf, account, Option.map_map]
  rfl

/-- What a tenant has left is what its entries add up to, and not below zero. -/
def Balanced (entries : List Entry) (store : Store Exact) : Prop :=
  ∀ tenant, 0 ≤ balanceOf store tenant ∧ balanceOf store tenant = net tenant entries

/-- An exact account changes by what is moved, and is not overdrawn. -/
theorem Transfer.value {cost total : Exact} {balance : Option Exact} {kind : Kind}
    (transfer : Transfer cost kind balance total) (unsigned : 0 ≤ cost.value)
    (funded : 0 ≤ (balance.map Exact.value).getD 0) :
    0 ≤ total.value ∧
      total.value = (balance.map Exact.value).getD 0 + kind.signed cost.value := by
  cases transfer with
  | opened => exact ⟨unsigned, (zero_add _).symm⟩
  | credited adds | refunded adds =>
    cases adds
    refine ⟨add_nonneg funded unsigned, rfl⟩
  | deducted covers takes =>
    cases takes
    exact ⟨sub_nonneg.mpr ((Exact.covers_iff _ _).mp covers), sub_eq_add_neg _ _⟩

/-- One more call is one more entry. -/
theorem Balanced.snoc {entries : List Entry} {world : World σ Exact} (inOrder : InOrder world)
    (balanced : Balanced entries world.store) (call : Call) :
    Balanced (entries ++ [call.entry world]) (call.run.worldAfter world).store := by
  intro tenant
  rw [net_snoc, ← (balanced tenant).2]
  have named : (call.entry world).call = call := rfl
  rcases call.steps inOrder with ⟨same, nothing⟩ |
    ⟨amount, cost, total, gives, moves, stores, counts, transfer, accounts⟩
  · rw [same, Entry.gain_of_nothing nothing, add_zero]
    exact ⟨(balanced tenant).1, rfl⟩
  · have worth : (call.entry world).worth = cost.value := by
      rw [Entry.worth, named, gives, (stored_value stores).2]
    rw [balanceOf_eq_account, balanceOf_eq_account, accounts]
    by_cases own : tenant = call.tenant
    · subst own
      have funded := (balanced call.tenant).1
      rw [balanceOf_eq_account] at funded
      have unsigned := (movable_ok moves).2
      rw [← (stored_value stores).2] at unsigned
      obtain ⟨above, moved⟩ := transfer.value unsigned funded
      rw [Function.update_self, Entry.gain_of_counts counts, worth]
      exact ⟨above, moved⟩
    · rw [Function.update_of_ne own, Entry.gain_of_other own, add_zero, ← balanceOf_eq_account]
      exact ⟨(balanced tenant).1, rfl⟩

/-- The books balance after any calls. -/
theorem balanced_afterCalls (world : World σ Exact) (calls : List Call) :
    Balanced (transcript (unfunded world) calls) (afterCalls (unfunded world) calls).store := by
  induction calls using List.reverseRecOn with
  | nil =>
    intro tenant
    simp [transcript, net, turnover, balanceOf, row?, unfunded]
  | append_singleton calls call balanced =>
    rw [transcript_snoc, afterCalls_snoc]
    exact balanced.snoc (inOrder_afterCalls world calls) call

/-- With exact columns a call tells what its tenant's account says. -/
theorem Call.tells {world : World σ Exact} (inOrder : InOrder world) (call : Call)
    (funded : 0 ≤ balanceOf world.store call.tenant) {amount : Decimal}
    (gives : given call.amount = .ok amount) (finite : amount.isFinite = true)
    (unsigned : 0 ≤ amount.ratio) :
    Ends call.run world fun result after =>
      match call.kind with
      | .credit => result = .ok (.credited (balanceIn after.store call.tenant))
      | .deduct =>
        result = .ok (.deducted (decide (amount.ratio ≤ balanceOf world.store call.tenant)))
      | .refund => result = .ok .refunded := by
  refine (call.ends inOrder.created inOrder.single).mono fun result after ends => ?_
  rw [call.moved_of_finite gives finite unsigned] at ends
  change EndsAs world call.tenant (settle amount _ call.kind) result after at ends
  have stores := Exact.stored_of_finite finite
  rw [balanceOf_eq_account] at funded ⊢
  generalize account world.store call.tenant = balance at *
  cases kind : call.kind with
  | credit =>
    rw [kind, settle, raised, stores] at ends
    cases balance with
    | none | some balance =>
      obtain ⟨rfl, -, -, accounts⟩ := ends
      have own := congrFun accounts call.tenant
      rw [Function.update_self] at own
      rw [balanceIn_of_account own]
  | deduct =>
    rw [kind, settle, stores] at ends
    by_cases zero : amount.isZero = true
    · rw [if_pos zero] at ends
      obtain ⟨rfl, -⟩ := ends
      rw [Decimal.ratio_of_isZero zero, decide_eq_true funded]
    · rw [if_neg zero] at ends
      have some : 0 < amount.ratio :=
        unsigned.lt_of_ne fun none => zero (Decimal.isZero_of_ratio finite none.symm)
      cases balance with
      | none =>
        obtain ⟨rfl, -⟩ := ends
        rw [decide_eq_false]
        exact some.not_ge
      | some balance =>
        by_cases covers : amount.ratio ≤ balance.value
        · have covered := (Exact.covers_iff balance ⟨amount.ratio, []⟩).mpr covers
          simp only [bind, Except.bind, covered, ↓reduceIte] at ends
          obtain ⟨rfl, -⟩ := ends
          rw [Option.map_some, Option.getD_some, decide_eq_true covers]
        · have uncovered : ¬ Amount.covers balance ⟨amount.ratio, []⟩ = true :=
            fun covered => covers ((Exact.covers_iff _ _).mp covered)
          simp only [bind, Except.bind, uncovered] at ends
          obtain ⟨rfl, -⟩ := ends
          rw [Option.map_some, Option.getD_some, decide_eq_false covers]
  | refund =>
    rw [kind, settle, stores] at ends
    split at ends
    · exact ends.1
    · cases balance with
      | none | some balance => exact ends.1

end ExactBooks

/-- A ledger with exact columns keeps, through any calls, at most one balance for a tenant, never
below zero, that is what was credited and given back to an existing balance less what was deducted.
A call that is refused or fails changes nothing, and none touches another tenant. -/
theorem exact_books (world : World σ Exact) (calls : List Call) :
    let now := afterCalls (unfunded world) calls
    let entries := transcript (unfunded world) calls
    (now.store.balances.map Balance.tenant).Nodup ∧
    (∀ tenant, 0 ≤ balanceOf now.store tenant ∧ balanceOf now.store tenant =
      turnover .credit tenant entries + turnover .refund tenant entries -
        turnover .deduct tenant entries) ∧
    ∀ call : Call, Ends call.run now fun result after =>
      (result = .ok (.deducted false) ∨ (∃ failure, result = .error failure) → after = now) ∧
      (∀ tenant, tenant ≠ call.tenant →
        account after.store tenant = account now.store tenant) ∧
      ∀ amount, given call.amount = .ok amount → amount.isFinite = true →
        if amount.ratio < 0 then result = .error (.negativeAmount amount)
        else match call.kind with
          | .credit => result = .ok (.credited (balanceIn after.store call.tenant))
          | .deduct =>
            result = .ok (.deducted (decide (amount.ratio ≤ balanceOf now.store call.tenant)))
          | .refund => result = .ok .refunded := by
  intro now entries
  have inOrder : InOrder now := inOrder_afterCalls world calls
  have balanced : Balanced entries now.store := balanced_afterCalls world calls
  refine ⟨inOrder.single, balanced, fun call => ?_⟩
  have ends := call.ends inOrder.created inOrder.single
  refine ⟨ends.unchanged, ends.apart, fun amount gives finite => ?_⟩
  split
  · rename_i below
    have moves : call.moved = .error (.negativeAmount amount) := by
      rw [Call.moved, gives]
      exact (movable_of_finite finite).trans (if_pos below)
    rw [moves] at ends
    exact ends.1
  · rename_i unsigned
    exact call.tells inOrder (balanced call.tenant).1 gives finite (not_lt.mp unsigned)

namespace Sample

/-- One tenant is credited three, another one two, and the first one pays the half of one. -/
def exchanges : List Call :=
  [⟨.credit, "t", .int 3⟩, ⟨.credit, "u", .text "2.00"⟩, ⟨.deduct, "t", .text "0.5"⟩]

end Sample

/-- A deduction below zero fails, and leaves the two balances and all else as it is. -/
theorem sample_exact_books :
    let now : World Unit Exact :=
      afterCalls (unfunded (World.opened Sample.dawn ())) Sample.exchanges
    Ends (Call.run ⟨.deduct, "t", .text "-1"⟩) now fun result after =>
      result = .error (.negativeAmount (.finite true 1 0)) ∧ after = now ∧
        account after.store "u" = account now.store "u" := by
  intro now
  have gives : given (.text "-1") = .ok (.finite true 1 0) := ok_of_toOption (by decide +kernel)
  have below : (Decimal.finite true 1 0).ratio < 0 := by decide +kernel
  have books := (exact_books (World.opened Sample.dawn () : World Unit Exact) Sample.exchanges).2.2
    ⟨.deduct, "t", .text "-1"⟩
  refine books.mono fun result after ⟨unchanged, apart, tells⟩ => ?_
  have fails := tells _ gives rfl
  rw [if_pos below] at fails
  exact ⟨fails, unchanged (.inr ⟨_, fails⟩), apart "u" (by decide)⟩

end Herald.BalanceLedger
