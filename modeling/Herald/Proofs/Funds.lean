import Mathlib.Algebra.Group.Pi.Lemmas
import Mathlib.Tactic.Linarith
import Mathlib.Tactic.Ring
import Herald.Pass.Send
import Herald.Proofs.Exact
import Herald.Proofs.Standing
import Herald.Proofs.Table

/-! # Funds

A tenant's funds are its balance and what its messages have cost. Only a credit adds to them: a
deduction takes an amount out of the balance for as long as a message is under way, and either the
message is logged at that cost or the amount is given back. `Grown` says what becomes of the funds
between two stores, and `Debt` is the state in between.
-/

namespace Herald

variable {σ α : Type}

namespace BalanceLedger

/-- The rows of a tenant of which a condition holds, with their amounts changed. -/
def adjusted (tenant : String) (condition : α → Bool) (update : α → α) (rows : List (Balance α)) :
    List (Balance α) :=
  rows.map fun row =>
    if row.tenant == tenant && condition row.amount then { row with amount := update row.amount }
    else row

/-- A change that always has a value counts the rows it applies to and changes just these. -/
theorem change_total (tenant : String) (condition : α → Bool) (update : α → α)
    (rows : List (Balance α)) :
    change tenant condition (fun amount => some (update amount)) rows =
      .ok (rows.countP fun row => row.tenant == tenant && condition row.amount,
        adjusted tenant condition update rows) := by
  induction rows with
  | nil => rfl
  | cons row rest ih =>
    simp only [change, ih, bind, Except.bind, pure, Except.pure, List.countP_cons, adjusted,
      List.map_cons]
    split <;> rfl

/-- The rows keep their tenants. -/
theorem adjusted_tenants (tenant : String) (condition : α → Bool) (update : α → α)
    (rows : List (Balance α)) :
    (adjusted tenant condition update rows).map Balance.tenant = rows.map Balance.tenant := by
  simp only [adjusted, List.map_map]
  refine List.map_congr_left fun row _ => ?_
  simp only [Function.comp_apply]
  split <;> rfl

/-- The row of a tenant is looked up before a change as well as after it. -/
theorem row?_adjusted (store : Store α) (tenant name : String) (condition : α → Bool)
    (update : α → α) :
    row? { store with balances := adjusted tenant condition update store.balances } name =
      (row? store name).map fun row =>
        if row.tenant == tenant && condition row.amount then
          { row with amount := update row.amount }
        else row := by
  have names : ∀ row : Balance α,
      (if row.tenant == tenant && condition row.amount then
        { row with amount := update row.amount } else row).tenant = row.tenant := by
    intro row
    split <;> rfl
  simp only [row?, adjusted, List.find?_map, Function.comp_def, names]

/-- What no row meets changes nothing. -/
theorem adjusted_of_none {tenant : String} {condition : α → Bool} {update : α → α}
    {rows : List (Balance α)}
    (none : ∀ row ∈ rows, (row.tenant == tenant && condition row.amount) = false) :
    adjusted tenant condition update rows = rows := by
  conv_rhs => rw [← List.map_id rows]
  refine List.map_congr_left fun row member => ?_
  rw [none row member]
  rfl

end BalanceLedger

open BalanceLedger

/-- What a tenant has left, exactly; nothing without a row. -/
def balanceOf (store : Store Exact) (tenant : String) : ℚ :=
  ((row? store tenant).map fun row => row.amount.value).getD 0

/-- What the messages of a tenant have cost. -/
def spent (messages : List (Message Exact)) (tenant : String) : ℚ :=
  ((messages.filter fun message => message.tenant == tenant).map fun message =>
    message.cost.value).sum

/-- What a tenant has left and has spent. -/
def funds (store : Store Exact) (tenant : String) : ℚ :=
  balanceOf store tenant + spent store.messages tenant

theorem spent_append (messages rows : List (Message Exact)) (tenant : String) :
    spent (messages ++ rows) tenant = spent messages tenant + spent rows tenant := by
  simp only [spent, List.filter_append, List.map_append, List.sum_append]

theorem spent_singleton (message : Message Exact) :
    spent [message] = Pi.single message.tenant message.cost.value := by
  funext tenant
  rw [Pi.single_apply]
  by_cases same : tenant = message.tenant
  · simp [spent, same]
  · simp [spent, same, Ne.symm same]

/-- Books that are in order: a tenant has at most one balance, and no balance was ever below
zero. -/
structure Sound (store : Store Exact) : Prop where
  created : store.created = true
  tenants : (store.balances.map Balance.tenant).Nodup
  covered : ∀ row ∈ store.balances, ∀ value ∈ row.amount.held, 0 ≤ value

/-- In sound books the row of a tenant is the one that is looked up. -/
theorem Sound.row?_eq {store : Store Exact} (sound : Sound store) {row : Balance Exact}
    (member : row ∈ store.balances) : row? store row.tenant = some row :=
  find?_of_nodup sound.tenants member

theorem Sound.balanceOf_nonneg {store : Store Exact} (sound : Sound store) (tenant : String) :
    0 ≤ balanceOf store tenant := by
  unfold balanceOf
  cases found : row? store tenant with
  | none => exact le_refl 0
  | some row =>
    exact sound.covered row (List.mem_of_find?_eq_some found) _ (List.mem_cons_self ..)

/-- What a change of balances leaves of sound books. -/
theorem Sound.adjusted {store : Store Exact} (sound : Sound store) (tenant : String)
    (condition : Exact → Bool) {update : Exact → Exact}
    (keeps : ∀ amount, condition amount = true → (∀ value ∈ amount.held, 0 ≤ value) →
      ∀ value ∈ (update amount).held, 0 ≤ value) :
    Sound { store with balances := adjusted tenant condition update store.balances } where
  created := sound.created
  tenants := (adjusted_tenants tenant condition update store.balances).symm ▸ sound.tenants
  covered := by
    intro row member
    obtain ⟨old, there, rfl⟩ := List.mem_map.mp member
    split
    · rename_i applies
      rw [Bool.and_eq_true] at applies
      exact keeps old.amount applies.2 (sound.covered old there)
    · exact sound.covered old there

/-- A change of a tenant's row is a change of its balance alone. -/
theorem balanceOf_adjusted {store : Store Exact} {row : Balance Exact} {condition : Exact → Bool}
    {update : Exact → Exact} {gain : ℚ} (found : row? store row.tenant = some row)
    (applies : condition row.amount = true)
    (gains : (update row.amount).value = row.amount.value + gain) (name : String) :
    balanceOf { store with balances := adjusted row.tenant condition update store.balances } name =
      balanceOf store name + Pi.single (M := fun _ => ℚ) row.tenant gain name := by
  simp only [balanceOf, row?_adjusted]
  by_cases same : name = row.tenant
  · simp [same, found, applies, gains]
  · cases other : row? store name with
    | none => simp [same]
    | some found =>
      have named : found.tenant = name := by
        simpa using List.find?_some other
      simp [named, same]

/-- Every row is still there, and remembers what it held. -/
def Remembered (before after : List (Balance Exact)) : Prop :=
  ∀ row ∈ before, ∃ later ∈ after,
    later.tenant = row.tenant ∧ row.amount.held <:+ later.amount.held

theorem Remembered.refl (rows : List (Balance Exact)) : Remembered rows rows :=
  fun row member => ⟨row, member, rfl, List.suffix_refl _⟩

theorem Remembered.trans {before middle after : List (Balance Exact)}
    (first : Remembered before middle) (second : Remembered middle after) :
    Remembered before after := by
  intro row member
  obtain ⟨later, there, named, held⟩ := first row member
  obtain ⟨last, still, same, more⟩ := second later there
  exact ⟨last, still, same.trans named, held.trans more⟩

theorem remembered_adjusted {tenant : String} {condition : Exact → Bool} {update : Exact → Exact}
    {rows : List (Balance Exact)} (remembers : ∀ amount, amount.held <:+ (update amount).held) :
    Remembered rows (adjusted tenant condition update rows) := by
  intro row member
  refine ⟨_, List.mem_map_of_mem member, ?_⟩
  split
  · exact ⟨rfl, remembers row.amount⟩
  · exact ⟨rfl, List.suffix_refl _⟩

/-- What lies between two stores when a tenant's funds have grown by so much. -/
structure Grown (gain : String → ℚ) (before after : Store Exact) : Prop where
  sound : Sound after
  logged : before.messages <+: after.messages
  remembered : Remembered before.balances after.balances
  funds_eq : ∀ tenant, funds after tenant = funds before tenant + gain tenant

namespace Grown

variable {gain more : String → ℚ} {before middle after : Store Exact}

theorem refl (sound : Sound before) : Grown 0 before before :=
  ⟨sound, List.prefix_refl _, .refl _, fun _ => (add_zero _).symm⟩

theorem trans (first : Grown gain before middle) (second : Grown more middle after) :
    Grown (gain + more) before after where
  sound := second.sound
  logged := first.logged.trans second.logged
  remembered := first.remembered.trans second.remembered
  funds_eq tenant := by
    rw [second.funds_eq, first.funds_eq, Pi.add_apply, add_assoc]

/-- Nothing but the balances and the log matters. -/
theorem of_books (sound : Sound before) (created : after.created = before.created)
    (balances : after.balances = before.balances) (messages : after.messages = before.messages) :
    Grown 0 before after where
  sound := ⟨created.trans sound.created, balances ▸ sound.tenants, balances ▸ sound.covered⟩
  logged := messages ▸ List.prefix_refl _
  remembered := balances ▸ .refl _
  funds_eq tenant := by
    simp only [funds, balanceOf, row?, balances, messages, Pi.zero_apply, add_zero]

/-- A change of a tenant's row adds to the funds what it adds to the balance. -/
theorem adjust (sound : Sound before) {row : Balance Exact} {condition : Exact → Bool}
    {update : Exact → Exact} {gain : ℚ} (member : row ∈ before.balances)
    (applies : condition row.amount = true)
    (gains : (update row.amount).value = row.amount.value + gain)
    (keeps : ∀ amount, condition amount = true → (∀ value ∈ amount.held, 0 ≤ value) →
      ∀ value ∈ (update amount).held, 0 ≤ value)
    (remembers : ∀ amount, amount.held <:+ (update amount).held) :
    Grown (Pi.single row.tenant gain) before
      { before with balances := adjusted row.tenant condition update before.balances } where
  sound := sound.adjusted row.tenant condition keeps
  logged := List.prefix_refl _
  remembered := remembered_adjusted remembers
  funds_eq tenant := by
    simp only [funds, balanceOf_adjusted (sound.row?_eq member) applies gains]
    ring

/-- A logged message adds its cost to what its tenant has spent. -/
theorem log (sound : Sound before) (row : Message Exact) :
    Grown (Pi.single row.tenant row.cost.value) before
      { before with messages := before.messages ++ [row] } where
  sound := ⟨sound.created, sound.tenants, sound.covered⟩
  logged := List.prefix_append _ _
  remembered := .refl _
  funds_eq tenant := by
    simp only [funds, spent_append, spent_singleton]
    exact (add_assoc _ _ _).symm

/-- A tenant spends at most what it has, when nothing is credited. -/
theorem spent_le (grown : Grown 0 before after) {rows : List (Message Exact)}
    (logged : after.messages = before.messages ++ rows) (tenant : String) :
    spent rows tenant ≤ balanceOf before tenant := by
  have same := grown.funds_eq tenant
  have left := grown.sound.balanceOf_nonneg tenant
  simp only [funds, logged, spent_append, Pi.zero_apply] at same
  linarith

end Grown

namespace BalanceLedger

/-! ## Writes of the ledger -/

variable {store after : Store Exact} {tenant : String} {amount : Decimal}

/-- A deduction takes the amount out of the one row that covers it, or leaves everything. -/
theorem deductIn_grown (sound : Sound store) {paid : Bool}
    (wrote : deductIn tenant amount store = .ok (paid, after)) :
    if paid then
      amount.isFinite = true ∧ (row? after tenant).isSome ∧
        Grown (Pi.single tenant (-amount.ratio)) store after
    else Grown 0 store after := by
  cases finite : amount.isFinite with
  | false => simp [deductIn, Exact.stored_of_infinite finite, bind, Except.bind] at wrote
  | true =>
    simp only [deductIn, Exact.stored_of_finite finite, bind, Except.bind, Exact.sub?_eq,
      change_total, pure, Except.pure, Except.ok.injEq, Prod.mk.injEq] at wrote
    obtain ⟨paid_eq, rfl⟩ := wrote
    cases paid with
    | false =>
      rw [bne_eq_false_iff_eq, List.countP_eq_zero] at paid_eq
      rw [adjusted_of_none fun row member => Bool.eq_false_iff.mpr (paid_eq row member)]
      exact Grown.refl sound
    | true =>
      rw [bne_iff_ne] at paid_eq
      obtain ⟨row, member, applies⟩ := List.countP_pos_iff.mp (Nat.pos_of_ne_zero paid_eq)
      rw [Bool.and_eq_true, beq_iff_eq] at applies
      obtain ⟨rfl, covers⟩ := applies
      refine ⟨rfl, ?_, Grown.adjust sound member covers (sub_eq_add_neg _ _) ?_
        fun _ => List.suffix_cons _ _⟩
      · rw [row?_adjusted, sound.row?_eq member]
        rfl
      · intro balance covered held value among
        rw [Exact.covers_iff] at covered
        rcases List.mem_cons.mp among with rfl | among
        · exact sub_nonneg.mpr covered
        · exact held value among

/-- What is given back goes to the row that it came from. -/
theorem addIn_grown (sound : Sound store) (positive : 0 ≤ amount.ratio)
    (finite : amount.isFinite = true) (known : (row? store tenant).isSome) :
    ∃ after, addIn tenant amount store = .ok ((), after) ∧
      Grown (Pi.single tenant amount.ratio) store after := by
  obtain ⟨row, found⟩ := Option.isSome_iff_exists.mp known
  have named : row.tenant = tenant := by simpa using List.find?_some found
  subst named
  have wrote : addIn row.tenant amount store = .ok ((), { store with
      balances := adjusted row.tenant (fun _ => true)
        (fun balance => balance.become (balance.value + amount.ratio)) store.balances }) := by
    simp only [addIn, Exact.stored_of_finite finite, bind, Except.bind, Exact.add?_eq,
      change_total, pure, Except.pure]
  refine ⟨_, wrote, Grown.adjust sound (List.mem_of_find?_eq_some found) rfl rfl ?_
    fun _ => List.suffix_cons _ _⟩
  intro balance _ held value among
  rcases List.mem_cons.mp among with rfl | among
  · exact add_nonneg (held _ (List.mem_cons_self ..)) positive
  · exact held value among

/-- A credit adds the amount to the tenant's row, and makes the row if there is none. -/
theorem creditIn_grown (sound : Sound store) (positive : 0 ≤ amount.ratio)
    (wrote : creditIn tenant amount store = .ok ((), after)) :
    Grown (Pi.single tenant amount.ratio) store after := by
  have finite : amount.isFinite = true := by
    by_contra infinite
    rw [Bool.not_eq_true] at infinite
    cases found : row? store tenant <;>
      simp [creditIn, found, addIn, Exact.stored_of_infinite infinite, bind, Except.bind] at wrote
  cases found : row? store tenant with
  | some row =>
    obtain ⟨written, wrote', grown⟩ := addIn_grown sound positive finite (Option.isSome_of_eq_some found)
    simp only [creditIn, found, wrote', Except.ok.injEq, Prod.mk.injEq, true_and] at wrote
    exact wrote ▸ grown
  | none =>
    simp only [creditIn, found, Exact.stored_of_finite finite, bind, Except.bind, pure,
      Except.pure, Except.ok.injEq, Prod.mk.injEq, true_and] at wrote
    subst wrote
    have absent : ∀ row ∈ store.balances, row.tenant ≠ tenant := by
      simpa [row?] using found
    refine ⟨⟨sound.created, ?_, ?_⟩, List.prefix_refl _, ?_, fun name => ?_⟩
    · rw [List.map_append, List.nodup_append]
      refine ⟨sound.tenants, List.nodup_singleton _, ?_⟩
      intro name among other single
      obtain ⟨row, member, rfl⟩ := List.mem_map.mp among
      rw [List.mem_singleton.mp single]
      exact absent row member
    · intro row among
      rcases List.mem_append.mp among with among | among
      · exact sound.covered row among
      · rw [List.mem_singleton.mp among]
        intro value held
        rw [List.mem_singleton.mp held]
        exact positive
    · exact fun row among =>
        ⟨row, List.mem_append_left _ among, rfl, List.suffix_refl _⟩
    · simp only [funds, balanceOf, row?, List.find?_append, List.find?_singleton]
      by_cases same : name = tenant
      · subst same
        rw [show List.find? (fun row => row.tenant == name) store.balances = none from found]
        simp [add_comm]
      · simp [same, Ne.symm same]

end BalanceLedger

end Herald
