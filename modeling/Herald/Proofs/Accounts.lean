import Mathlib.Logic.Function.Basic
import Herald.Proofs.Unpaid

/-! # The ledger as accounts

The balances are a table with at most one row for a tenant, so they are a map from tenants to
amounts. A call of the ledger looks at the account of its tenant alone: `settle` says without any
tables what the call tells and what the account becomes. `Call.ends` is that rule for the tables,
and `inOrder_afterCalls` keeps the tables in that form through any number of calls.
-/

namespace Herald.BalanceLedger

variable {σ α : Type}

/-! ## Calls -/

/-- What a call of the ledger asks for. -/
inductive Kind
  | credit
  | deduct
  | refund
  deriving DecidableEq

/-- A call of the ledger for a tenant, with the amount as its caller gives it. -/
structure Call where
  kind : Kind
  tenant : String
  amount : Value

/-- What a call tells. -/
inductive Answer
  | credited (balance : Decimal)
  | deducted (paid : Bool)
  | refunded
  deriving DecidableEq

/-- The amount of a call, if it may be moved. -/
def Call.moved (call : Call) : Except Failure Decimal := given call.amount >>= movable

/-- What a tenant has, if it has a balance. -/
def account (store : Store α) (tenant : String) : Option α :=
  (row? store tenant).map Balance.amount

/-- No tenant has two balances. -/
def Single (store : Store α) : Prop := (store.balances.map Balance.tenant).Nodup

/-- The rows with another amount in the row of a tenant. -/
def replaced (tenant : String) (amount : α) (rows : List (Balance α)) : List (Balance α) :=
  rows.map fun row => if row.tenant == tenant then { row with amount } else row

/-- An amount that a column has room for. -/
def held : Option α → Except Failure α
  | some amount => .ok amount
  | none => .error .refusedRow

theorem held_ok {amount : Option α} {total : α} (ok : held amount = .ok total) :
    amount = some total := by
  cases amount with
  | none => cases ok
  | some amount => exact congrArg some (Except.ok.inj ok)

theorem replaced_tenants (tenant : String) (amount : α) (rows : List (Balance α)) :
    (replaced tenant amount rows).map Balance.tenant = rows.map Balance.tenant := by
  rw [replaced, List.map_map]
  apply List.map_congr_left
  intro row _
  simp only [Function.comp_apply]
  split <;> rfl

/-- Only the account of the tenant becomes another one. -/
theorem account_replaced {store : Store α} {tenant : String} {row : Balance α}
    (found : row? store tenant = some row) (amount : α) :
    account { store with balances := replaced tenant amount store.balances } =
      Function.update (account store) tenant (some amount) := by
  funext name
  have names : ∀ other : Balance α,
      (if other.tenant == tenant then { other with amount } else other).tenant = other.tenant := by
    intro other
    split <;> rfl
  have looked : row? { store with balances := replaced tenant amount store.balances } name =
      (row? store name).map fun other =>
        if other.tenant == tenant then { other with amount } else other := by
    simp only [row?, replaced, List.find?_map, Function.comp_def, names]
  rw [account, looked]
  by_cases same : name = tenant
  · subst same
    have own : row.tenant = name := by simpa using List.find?_some found
    simp [found, own]
  · rw [Function.update_of_ne same, account]
    cases other : row? store name with
    | none => rfl
    | some found =>
      have own : found.tenant = name := by simpa using List.find?_some other
      simp [own, same]

/-- In a table with one row for a tenant, a change is a change of that row. -/
theorem change_of_single {tenant : String} {condition : α → Bool} {update : α → Option α}
    {rows : List (Balance α)} {row : Balance α} (single : (rows.map Balance.tenant).Nodup)
    (found : rows.find? (fun other => other.tenant == tenant) = some row) :
    change tenant condition update rows =
      if condition row.amount then
        (held (update row.amount)).map fun amount => (1, replaced tenant amount rows)
      else .ok (0, rows) := by
  induction rows with
  | nil => cases found
  | cons first rest ih =>
    rw [List.map_cons, List.nodup_cons] at single
    by_cases own : first.tenant = tenant
    · subst own
      simp only [List.find?_cons, BEq.rfl, Option.some.injEq] at found
      subst found
      -- The first row is the one, so that the others are of other tenants.
      have others : ∀ other ∈ rest, other.tenant ≠ first.tenant := by
        intro other member same
        apply single.1
        rw [← same]
        exact List.mem_map_of_mem member
      have same : ∀ amount, replaced first.tenant amount (first :: rest) =
          { first with amount } :: rest := by
        intro amount
        have unchanged : replaced first.tenant amount rest = rest := by
          conv_rhs => rw [← List.map_id rest]
          apply List.map_congr_left
          intro other member
          simp [others other member]
        rw [replaced, List.map_cons, if_pos BEq.rfl]
        exact congrArg _ unchanged
      rw [change, change_none fun other member own => absurd own (others other member)]
      by_cases meets : condition first.amount = true
      · cases update first.amount with
        | none =>
          simp [meets, held, Except.map, bind, Except.bind, throw, throwThe, MonadExceptOf.throw]
        | some amount => simp [meets, held, Except.map, bind, Except.bind, pure, Except.pure, same]
      · simp [meets, bind, Except.bind, pure, Except.pure]
    · simp only [List.find?_cons, beq_eq_false_iff_ne.mpr own] at found
      rw [change, ih single.2 found]
      by_cases meets : condition row.amount = true
      · cases update row.amount with
        | none => simp [meets, held, Except.map, bind, Except.bind]
        | some amount =>
          simp [meets, held, Except.map, bind, Except.bind, pure, Except.pure, own, replaced]
      · simp [meets, bind, Except.bind, pure, Except.pure, own]

theorem tenant_ne_of_absent {store : Store α} {tenant : String}
    (absent : row? store tenant = none) : ∀ row ∈ store.balances, row.tenant ≠ tenant := by
  simpa [row?] using absent

/-- A tenant without a row has nothing to change. -/
theorem change_of_absent {store : Store α} {tenant : String} {condition : α → Bool}
    {update : α → Option α} (absent : row? store tenant = none) :
    change tenant condition update store.balances = .ok (0, store.balances) := by
  apply change_none
  intro row member own
  exact absurd own (tenant_ne_of_absent absent row member)

variable [Amount α]

/-- What is read as a tenant's balance is what its account holds. -/
theorem balanceIn_of_account {store : Store α} {tenant : String} {amount : α}
    (holds : account store tenant = some amount) :
    balanceIn store tenant = Amount.read pricePlaces amount := by
  obtain ⟨row, found, rfl⟩ := Option.map_eq_some_iff.mp holds
  rw [balanceIn, found]

theorem balanceIn_of_absent {store : Store α} {tenant : String}
    (absent : account store tenant = none) : balanceIn store tenant = .zero := by
  rw [account, Option.map_eq_none_iff] at absent
  rw [balanceIn, absent]

/-- Ask the ledger. -/
def Call.run (call : Call) : Run σ α Answer := do
  let amount ← Run.pure? (given call.amount)
  match call.kind with
  | .credit => return .credited (← credit call.tenant amount)
  | .deduct => return .deducted (← deduct call.tenant amount)
  | .refund =>
    refund call.tenant amount
    return .refunded

/-- What a tenant has behind it once an amount has been credited. -/
def raised (amount : Decimal) (balance : Option α) : Except Failure α := do
  let cost ← stored amount
  match balance with
  | some balance => held (Amount.add? balance cost)
  | none => return cost

/-- What a call for an amount tells, and the amount that its tenant has behind it if that is
another one. -/
def settle (amount : Decimal) (balance : Option α) : Kind → Except Failure (Answer × Option α)
  | .credit => do
    let total ← raised amount balance
    return (.credited (Amount.read pricePlaces total), some total)
  | .deduct => do
    if amount.isZero then return (.deducted true, none)
    let cost ← stored amount
    match balance with
    | none => return (.deducted false, none)
    | some balance =>
      if Amount.covers balance cost then
        return (.deducted true, some (← held (Amount.sub? balance cost)))
      else return (.deducted false, none)
  | .refund => do
    if amount.isZero then return (.refunded, none)
    let cost ← stored amount
    match balance with
    | none => return (.refunded, none)
    | some balance => return (.refunded, some (← held (Amount.add? balance cost)))

/-- What a call leaves behind that has put an amount into its tenant's account, or none. -/
def Posted (world : World σ α) (tenant : String) : Option α → World σ α → Prop
  | none, after => after = world
  | some amount, after => Single after.store ∧
      (∃ balances, after = { world with store := { world.store with balances } }) ∧
      account after.store = Function.update (account world.store) tenant (some amount)

/-- A call has ended as it was settled: it has failed without a trace, or has told and posted what
there was to tell and to post. -/
def EndsAs (world : World σ α) (tenant : String) (settled : Except Failure (Answer × Option α))
    (result : Except Failure Answer) (after : World σ α) : Prop :=
  match settled with
  | .error failure => result = .error failure ∧ after = world
  | .ok (told, posted) => result = .ok told ∧ Posted world tenant posted after

section Ends

variable {world : World σ α} {tenant : String} {amount : Decimal}
  (created : world.store.created = true) (single : Single world.store)

section Writes

omit [Amount α] in
include created in
/-- A tenant's row is changed as its account is settled. -/
theorem commit_ends {β : Type} {write : Store α → Except Failure (β × Store α)}
    {answer : β → Answer} {settled : Except Failure (Answer × Option α)}
    (writes : match settled with
      | .error failure => write world.store = .error failure
      | .ok (told, posted) => ∃ value store, write world.store = .ok (value, store) ∧
          answer value = told ∧ Posted world tenant posted { world with store }) :
    Ends (Run.commit write) world fun result after =>
      EndsAs world tenant settled (result.map answer) after := by
  rw [ends_commit created]
  cases settled with
  | error failure =>
    rw [show write world.store = .error failure from writes]
    exact ⟨rfl, rfl⟩
  | ok settled =>
    obtain ⟨value, store, wrote, tells, posted⟩ := writes
    rw [wrote]
    exact ⟨congrArg Except.ok tells, posted⟩

include single

omit [Amount α] in
/-- Writing an amount into the row of a tenant. -/
theorem posted_replaced {row : Balance α} (found : row? world.store tenant = some row)
    (amount : α) : Posted world tenant (some amount)
      { world with store := { world.store with
        balances := replaced tenant amount world.store.balances } } := by
  refine ⟨?_, ⟨_, rfl⟩, account_replaced found amount⟩
  rw [Single, replaced_tenants]
  exact single

omit [Amount α] in
/-- Writing the row of a tenant that has none yet. -/
theorem posted_added (absent : row? world.store tenant = none) (id : Int) (amount : α) :
    Posted world tenant (some amount)
      { world with store := { world.store with
        balances := world.store.balances ++ [⟨id, tenant, amount⟩] } } := by
  refine ⟨?_, ⟨_, rfl⟩, ?_⟩
  · rw [Single, List.map_append, List.nodup_append]
    refine ⟨single, List.nodup_singleton _, ?_⟩
    intro name among other added
    obtain ⟨row, member, rfl⟩ := List.mem_map.mp among
    rw [List.mem_singleton.mp added]
    exact tenant_ne_of_absent absent row member
  · funext name
    by_cases same : name = tenant
    · subst same
      rw [row?] at absent
      simp [account, row?, List.find?_append, absent]
    · rw [Function.update_of_ne same]
      simp [account, row?, List.find?_append, Ne.symm same]

variable (tenant amount) in
/-- A credit goes into the row of its tenant, which is made for the first one. -/
theorem creditIn_writes :
    match raised amount (account world.store tenant) with
    | .error failure => creditIn tenant amount world.store = .error failure
    | .ok total => ∃ store, creditIn tenant amount world.store = .ok ((), store) ∧
        Posted world tenant (some total) { world with store } := by
  rw [raised, creditIn]
  cases found : row? world.store tenant with
  | none =>
    cases stored amount (α := α) with
    | error failure => rfl
    | ok cost =>
      simp only [account, found, bind, Except.bind, Option.map_none]
      exact ⟨_, rfl, posted_added single found _ cost⟩
  | some row =>
    dsimp only
    rw [addIn]
    cases stored amount (α := α) with
    | error failure => rfl
    | ok cost =>
      simp only [account, found, bind, Except.bind, Option.map_some]
      rw [change_of_single single found, if_pos rfl]
      cases Amount.add? row.amount cost with
      | none => rfl
      | some total => exact ⟨_, rfl, posted_replaced single found total⟩

end Writes

include created single

theorem deduct_settles :
    Ends (deduct tenant amount) world fun result after =>
      EndsAs world tenant
        (movable amount >>= fun amount => settle amount (account world.store tenant) .deduct)
        (result.map .deducted) after := by
  rw [deduct, ends_bind, ends_pure?]
  cases movable amount with
  | error failure => exact ⟨rfl, rfl⟩
  | ok amount =>
    change Ends (if amount.isZero = true then _ else _) world fun result after =>
      EndsAs world tenant (settle amount (account world.store tenant) .deduct)
        (result.map .deducted) after
    by_cases zero : amount.isZero = true
    · rw [if_pos zero, ends_pure, settle, if_pos zero]
      exact ⟨rfl, rfl⟩
    · rw [if_neg zero]
      apply commit_ends created
      rw [settle, if_neg zero, deductIn]
      cases stored amount (α := α) with
      | error failure => rfl
      | ok cost =>
        cases found : row? world.store tenant with
        | none =>
          simp only [account, found, bind, Except.bind, Option.map_none, change_of_absent found]
          exact ⟨_, _, rfl, rfl, rfl⟩
        | some row =>
          simp only [account, found, bind, Except.bind, Option.map_some]
          rw [change_of_single single found]
          by_cases covers : Amount.covers row.amount cost = true
          · rw [if_pos covers, if_pos covers]
            cases Amount.sub? row.amount cost with
            | none => rfl
            | some rest => exact ⟨_, _, rfl, rfl, posted_replaced single found rest⟩
          · rw [if_neg covers, if_neg covers]
            exact ⟨_, _, rfl, rfl, rfl⟩

theorem refund_settles :
    Ends (refund tenant amount) world fun result after =>
      EndsAs world tenant
        (movable amount >>= fun amount => settle amount (account world.store tenant) .refund)
        (result.map fun _ => .refunded) after := by
  rw [refund, ends_bind, ends_pure?]
  cases movable amount with
  | error failure => exact ⟨rfl, rfl⟩
  | ok amount =>
    change Ends (if amount.isZero = true then _ else _) world fun result after =>
      EndsAs world tenant (settle amount (account world.store tenant) .refund)
        (result.map fun _ => .refunded) after
    by_cases zero : amount.isZero = true
    · rw [if_pos zero, ends_pure, settle, if_pos zero]
      exact ⟨rfl, rfl⟩
    · rw [if_neg zero]
      apply commit_ends created
      rw [settle, if_neg zero, addIn]
      cases stored amount (α := α) with
      | error failure => rfl
      | ok cost =>
        cases found : row? world.store tenant with
        | none =>
          simp only [account, found, bind, Except.bind, Option.map_none,
            change_of_absent found]
          exact ⟨_, _, rfl, rfl, rfl⟩
        | some row =>
          simp only [account, found, bind, Except.bind, Option.map_some]
          rw [change_of_single single found, if_pos rfl]
          cases Amount.add? row.amount cost with
          | none => rfl
          | some total => exact ⟨_, _, rfl, rfl, posted_replaced single found total⟩

theorem credit_settles :
    Ends (credit tenant amount) world fun result after =>
      EndsAs world tenant
        (movable amount >>= fun amount => settle amount (account world.store tenant) .credit)
        (result.map .credited) after := by
  rw [credit, ends_bind, ends_pure?]
  cases movable amount with
  | error failure => exact ⟨rfl, rfl⟩
  | ok amount =>
    change Ends (Run.commit (creditIn tenant amount) >>= fun _ => balance tenant) world
      fun result after => EndsAs world tenant
        (settle amount (account world.store tenant) .credit) (result.map .credited) after
    rw [ends_bind, ends_commit created, settle]
    have writes := creditIn_writes tenant amount single
    cases raises : raised amount (account world.store tenant) with
    | error failure =>
      rw [raises] at writes
      rw [show creditIn tenant amount world.store = .error failure from writes]
      exact ⟨rfl, rfl⟩
    | ok total =>
      rw [raises] at writes
      obtain ⟨store, wrote, posted⟩ := writes
      rw [wrote]
      dsimp only
      obtain ⟨_, ⟨balances, same⟩, accounts⟩ := id posted
      have made : store.created = true := by
        rw [show store = _ from congrArg World.store same]
        exact created
      rw [balance, ends_query made]
      have own : account store tenant = some total := by
        rw [show account store = _ from accounts, Function.update_self]
      rw [balanceIn_of_account own]
      exact ⟨rfl, posted⟩

end Ends

/-- A call does to the tables what it does to the account of its tenant. -/
theorem Call.ends {world : World σ α} (created : world.store.created = true)
    (single : Single world.store) (call : Call) :
    Ends call.run world fun result after =>
      EndsAs world call.tenant
        (call.moved >>= fun amount => settle amount (account world.store call.tenant) call.kind)
        result after := by
  obtain ⟨kind, tenant, value⟩ := call
  rw [run, ends_bind, ends_pure?, moved]
  cases given value with
  | error failure => exact ⟨rfl, rfl⟩
  | ok amount =>
    cases kind with
    | credit =>
      refine ends_bind.mpr ((credit_settles created single).mono ?_)
      rintro (failure | balance) after settled
      · exact settled
      · exact settled
    | deduct =>
      refine ends_bind.mpr ((deduct_settles created single).mono ?_)
      rintro (failure | paid) after settled
      · exact settled
      · exact settled
    | refund =>
      refine ends_bind.mpr ((refund_settles created single).mono ?_)
      rintro (failure | ⟨⟩) after settled
      · exact settled
      · exact settled

/-! ## Runs -/

/-- The world after calls of the ledger. -/
def afterCalls (world : World σ α) (calls : List Call) : World σ α :=
  calls.foldl (fun world call => call.run.worldAfter world) world

@[simp] theorem afterCalls_nil (world : World σ α) : afterCalls world [] = world := rfl

@[simp] theorem afterCalls_snoc (world : World σ α) (calls : List Call) (call : Call) :
    afterCalls world (calls ++ [call]) = call.run.worldAfter (afterCalls world calls) := by
  rw [afterCalls, List.foldl_append]
  rfl

/-- The tables of a ledger in which nothing has been credited yet. -/
def unfunded (world : World σ α) : World σ α :=
  { world with store := { world.store with created := true, balances := [] } }

/-- The tables are there, and no tenant has two balances. -/
structure InOrder (world : World σ α) : Prop where
  created : world.store.created = true
  single : Single world.store

omit [Amount α] in
theorem InOrder.of_endsAs {world after : World σ α} {tenant : String}
    {settled : Except Failure (Answer × Option α)} {result : Except Failure Answer}
    (inOrder : InOrder world) (ends : EndsAs world tenant settled result after) :
    InOrder after := by
  unfold EndsAs at ends
  split at ends
  · rw [ends.2]
    exact inOrder
  · rename_i told posted
    cases posted with
    | none =>
      rw [show after = world from ends.2]
      exact inOrder
    | some amount =>
      obtain ⟨single, ⟨balances, rfl⟩, -⟩ := ends.2
      exact ⟨inOrder.created, single⟩

/-- A ledger stays in order through any calls. -/
theorem inOrder_afterCalls (world : World σ α) (calls : List Call) :
    InOrder (afterCalls (unfunded world) calls) := by
  induction calls using List.reverseRecOn with
  | nil => exact ⟨rfl, List.nodup_nil⟩
  | append_singleton calls call inOrder =>
    rw [afterCalls_snoc]
    exact inOrder.of_endsAs (call.ends inOrder.created inOrder.single)

end Herald.BalanceLedger
