import Herald.World

/-! # Balances

A tenant pays for messages out of a balance. A deduction is a single write that happens only if the
balance covers it, so that no sequence of deductions brings a balance below zero; what was deducted
for a message that did not go out is given back.
-/

namespace Herald.BalanceLedger

variable {σ α : Type} [Amount α]

/-- Whether a value has a text; an integer with too many digits has none. -/
def hasText : Value → Bool
  | .int number => !Number.isOverlong number
  | _ => true

/-- The amount that a caller gives, as a number or as the text of one. -/
def given (amount : Value) : Except Failure Decimal :=
  if hasText amount then
    match Decimal.ofText? amount.inSentence with
    | some number => .ok number
    | none => .error .undefinedNumber
  else .error .overlongNumber

/-- An amount that may be moved: a number that is not below zero. -/
def movable (amount : Decimal) : Except Failure Decimal :=
  match amount.order? .zero with
  | none => .error .undefinedNumber
  | some .lt => .error (.negativeAmount amount)
  | some _ => .ok amount

/-- The first balance row of a tenant. -/
def row? (store : Store α) (tenant : String) : Option (Balance α) :=
  store.balances.find? fun row => row.tenant == tenant

/-- What a tenant has left; nothing without a row. -/
def balanceIn (store : Store α) (tenant : String) : Decimal :=
  match row? store tenant with
  | some row => Amount.read pricePlaces row.amount
  | none => .zero

/-- The stored form of an amount. -/
def stored (amount : Decimal) : Except Failure α :=
  match Amount.ofDecimal? amount with
  | some amount => .ok amount
  | none => .error .refusedRow

/-- Change a tenant's rows of which a condition holds, and count them. A change without a value
refuses the write. -/
def change (tenant : String) (condition : α → Bool) (update : α → Option α) :
    List (Balance α) → Except Failure (Nat × List (Balance α))
  | [] => .ok (0, [])
  | row :: rest => do
    let (count, rest) ← change tenant condition update rest
    if row.tenant == tenant && condition row.amount then
      match update row.amount with
      | some amount => return (count + 1, { row with amount } :: rest)
      | none => throw .refusedRow
    else return (count, row :: rest)

/-- The tables with a deduction made if the balance covers it, and whether it does. -/
def deductIn (tenant : String) (amount : Decimal) (store : Store α) :
    Except Failure (Bool × Store α) := do
  let amount ← stored amount
  let (count, balances) ←
    change tenant (fun balance => Amount.covers balance amount) (fun balance =>
      Amount.sub? balance amount) store.balances
  return (count != 0, { store with balances })

/-- The tables with an amount added to the rows of a tenant. -/
def addIn (tenant : String) (amount : Decimal) (store : Store α) :
    Except Failure (Unit × Store α) := do
  let amount ← stored amount
  let (_, balances) ←
    change tenant (fun _ => true) (fun balance => Amount.add? balance amount) store.balances
  return ((), { store with balances })

/-- The tables with an amount credited; the first credit makes the row. -/
def creditIn (tenant : String) (amount : Decimal) (store : Store α) :
    Except Failure (Unit × Store α) :=
  match row? store tenant with
  | some _ => addIn tenant amount store
  | none => do
    let amount ← stored amount
    let row : Balance α := ⟨nextId (store.balances.map Balance.id), tenant, amount⟩
    return ((), { store with balances := store.balances ++ [row] })

/-! ## Actions -/

/-- What a tenant has left. -/
def balance (tenant : String) : Run σ α Decimal :=
  Run.query fun store => balanceIn store tenant

/-- Whether a tenant could pay an amount. -/
def isSufficient (tenant : String) (amount : Decimal) : Run σ α Bool := do
  let balance ← balance tenant
  let amount ← Run.pure? (movable amount)
  return balance.order? amount != some .lt

/-- Deduct an amount if the balance covers it. -/
def deduct (tenant : String) (amount : Decimal) : Run σ α Bool := do
  let amount ← Run.pure? (movable amount)
  if amount.isZero then return true
  Run.commit (deductIn tenant amount)

/-- Give back an amount. -/
def refund (tenant : String) (amount : Decimal) : Run σ α Unit := do
  let amount ← Run.pure? (movable amount)
  if amount.isZero then return ()
  Run.commit (addIn tenant amount)

/-- Credit an amount, and tell the new balance. -/
def credit (tenant : String) (amount : Decimal) : Run σ α Decimal := do
  let amount ← Run.pure? (movable amount)
  Run.commit (creditIn tenant amount)
  balance tenant

end Herald.BalanceLedger
