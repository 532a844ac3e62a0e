import Mathlib.Data.List.Find
import Mathlib.Data.List.Nodup
import Herald.Proofs.Recording
import Herald.Proofs.Sums

/-! # The rows of a tenant

Every row belongs to one tenant: by its name, or through the campaign that it is about. A `Scope`
says which rows are a tenant's, `Store.seen` is the store with no other rows, and `Store.beyond` is
the store without them. An access to the tables is confined to a scope if it finds in the whole
store what it would find in the rows of the scope alone, and if it changes no other row.
-/

namespace Herald

variable {α β ρ : Type}

/-- A tenant and the ids of its campaigns. -/
structure Scope where
  tenant : String
  owns : Int → Bool

namespace Store

/-- The rows of some tenants and some campaigns. -/
def pick (tenants : String → Bool) (campaigns : Int → Bool) (store : Store α) : Store α where
  created := store.created
  definitions := store.definitions.filter fun row => tenants row.tenant
  customers := store.customers.filter fun row => tenants row.tenant
  services := store.services.filter fun row => tenants row.tenant
  campaigns := store.campaigns.filter fun row => tenants row.tenant
  messages := store.messages.filter fun row => campaigns row.campaign
  cooldowns := store.cooldowns.filter fun row => campaigns row.campaign
  balances := store.balances.filter fun row => tenants row.tenant

/-- The store without the ids that depend on how many rows there are of all tenants. -/
def unnumbered (store : Store α) : Store α :=
  { store with
    messages := store.messages.map fun row => { row with id := 0 }
    cooldowns := store.cooldowns.map fun row => { row with id := 0 } }

/-- The rows in a scope, without the ids that depend on others. -/
def seen (scope : Scope) (store : Store α) : Store α :=
  (store.pick (· == scope.tenant) scope.owns).unnumbered

/-- The rows that are not in a scope. -/
def beyond (scope : Scope) (store : Store α) : Store α :=
  store.pick (· != scope.tenant) fun id => !scope.owns id

/-- A tenant with its campaigns. -/
def scope (store : Store α) (tenant : String) : Scope where
  tenant := tenant
  owns id := store.campaigns.any fun campaign => campaign.tenant == tenant && campaign.id == id

/-- The rows of a tenant, without the ids that depend on others. -/
def rowsOf (tenant : String) (store : Store α) : Store α := store.seen (store.scope tenant)

/-- The rows of all other tenants. -/
def besides (tenant : String) (store : Store α) : Store α := store.beyond (store.scope tenant)

/-- The campaigns in a scope are those of its tenant. -/
def Fits (store : Store α) (scope : Scope) : Prop :=
  ∀ campaign ∈ store.campaigns, scope.owns campaign.id = (campaign.tenant == scope.tenant)

/-- A store fits the scopes of its tenants, because no two campaigns have the same id. -/
theorem fits_scope {store : Store α} (distinct : (store.campaigns.map Campaign.id).Nodup)
    (tenant : String) : store.Fits (store.scope tenant) := by
  intro campaign member
  rw [Bool.eq_iff_iff, scope, List.any_eq_true]
  constructor
  · rintro ⟨other, found, same⟩
    rw [Bool.and_eq_true] at same
    rw [← List.inj_on_of_nodup_map distinct found member (beq_iff_eq.mp same.2), same.1]
  · intro own
    exact ⟨campaign, member, by simp [own]⟩

/-! ## What is found in a scope -/

section Reads

variable {scope : Scope} {store : Store α}

theorem campaign?_seen (fits : store.Fits scope) {id : Int} (own : scope.owns id = true) :
    (store.seen scope).campaign? id = store.campaign? id := by
  simp only [campaign?, seen, unnumbered, pick, List.find?_filter]
  refine List.find?_congr fun campaign member => ?_
  by_cases same : campaign.id = id
  · have here := fits campaign member
    rw [same, own] at here
    simp [← here, same]
  · simp [same]

theorem rows_seen (target : String) :
    Registry.rows (store.seen scope) scope.tenant target =
      Registry.rows store scope.tenant target := by
  simp only [Registry.rows, seen, unnumbered, pick, List.filter_filter]
  refine List.filter_congr fun row _ => ?_
  cases row.tenant == scope.tenant <;> simp

theorem activeIn_seen {id : Int} (own : scope.owns id = true) (target : String) (start : Moment) :
    CooldownLedger.activeIn (store.seen scope) id target start =
      CooldownLedger.activeIn store id target start := by
  simp only [CooldownLedger.activeIn, seen, unnumbered, pick, List.filter_map, List.map_map,
    List.filter_filter]
  refine congrArg (List.map Cooldown.targetId) (List.filter_congr fun row _ => ?_)
  by_cases same : row.campaign = id
  · simp [same, own]
  · simp [same]

theorem messagedIn_seen {id : Int} (own : scope.owns id = true) (target : String) :
    Lifecycle.messagedIn (store.seen scope) id target = Lifecycle.messagedIn store id target := by
  simp only [Lifecycle.messagedIn, seen, unnumbered, pick, List.filter_map, List.map_map,
    List.filter_filter]
  refine congrArg (List.map Message.targetId) (List.filter_congr fun row _ => ?_)
  by_cases same : row.campaign = id
  · simp [same, own]
  · simp [same]

theorem after_seen (audience : Audience) (same : audience.tenant = scope.tenant) (id : Int) :
    audience.after id (store.seen scope) = audience.after id store := by
  have rows : (store.seen scope).targets audience.kind =
      (store.targets audience.kind).filter fun row => row.tenant == scope.tenant := by
    cases audience.kind <;> rfl
  rw [Audience.after, Audience.after, rows, List.filter_filter, same]
  refine List.filter_congr fun row _ => ?_
  cases row.tenant == scope.tenant <;> simp

end Reads

/-! ## What is written in a scope -/

/-- What a campaign is known by. -/
def keys (store : Store α) : List (Int × String) :=
  store.campaigns.map fun campaign => (campaign.id, campaign.tenant)

/-- A store that is like an earlier one beyond a scope. In the scope, its targets have not changed
either, and its campaigns have not changed hands. -/
structure Stays (scope : Scope) (before after : Store α) : Prop where
  keys_eq : after.keys = before.keys
  beyond_eq : after.beyond scope = before.beyond scope
  targets_eq : ∀ kind, after.targets kind = before.targets kind

/-- What a write makes of the rows in a scope, and its result, depend on those rows alone, and it
changes no others. -/
structure Confined (scope : Scope) (write : Store α → Except Failure (β × Store α)) : Prop where
  sees : ∃ found : Store α → Except Failure (β × Store α), ∀ store, store.Fits scope →
    (write store).map (Prod.map id (seen scope)) = found (store.seen scope)
  stays : ∀ store value after, store.Fits scope → write store = .ok (value, after) →
    Stays scope store after

variable {scope : Scope}

/-- A write that fails before it looks is confined to any scope. -/
theorem confined_error (failure : Failure) :
    Confined scope (fun _ => .error failure : Store α → Except Failure (β × Store α)) where
  sees := ⟨fun _ => .error failure, fun _ _ => rfl⟩
  stays _ _ _ _ wrote := by cases wrote

theorem Stays.refl (store : Store α) : Stays scope store store := ⟨rfl, rfl, fun _ => rfl⟩

theorem Stays.trans {first second third : Store α} (left : Stays scope first second)
    (right : Stays scope second third) : Stays scope first third where
  keys_eq := right.keys_eq.trans left.keys_eq
  beyond_eq := right.beyond_eq.trans left.beyond_eq
  targets_eq kind := (right.targets_eq kind).trans (left.targets_eq kind)

/-- Campaigns that have not changed hands fit what they have fitted. -/
theorem Stays.fits {before after : Store α} (stays : Stays scope before after)
    (fits : before.Fits scope) : after.Fits scope := by
  have keys : ∀ key ∈ before.keys, scope.owns key.1 = (key.2 == scope.tenant) :=
    List.forall_mem_map.mpr fits
  rw [← stays.keys_eq] at keys
  exact List.forall_mem_map.mp keys

theorem scope_of_keys {before after : Store α} (same : after.keys = before.keys)
    (tenant : String) : after.scope tenant = before.scope tenant := by
  have keys : ∀ (store : Store α) id, (store.scope tenant).owns id =
      store.keys.any fun key => key.2 == tenant && key.1 == id := by
    intro store id
    rw [scope, Store.keys, List.any_map]
    rfl
  refine congrArg (Scope.mk tenant) (funext fun id => ?_)
  exact (keys after id).trans ((congrArg (List.any · _) same).trans (keys before id).symm)

/-- A campaign beyond a scope has none of the scope's ids. -/
theorem Fits.differs {store : Store α} (fits : store.Fits scope) {id : Int}
    (own : scope.owns id = true) {campaign : Campaign α} (member : campaign ∈ store.campaigns)
    (beyond : (campaign.tenant == scope.tenant) = false) : (campaign.id == id) = false := by
  refine beq_eq_false_iff_ne.mpr fun same => ?_
  rw [← fits campaign member, same, own] at beyond
  cases beyond

/-- The campaigns of a tenant are known from its rows. -/
theorem scope_of_rowsOf {tenant : String} {store other : Store α}
    (same : other.rowsOf tenant = store.rowsOf tenant) : other.scope tenant = store.scope tenant := by
  have owns : ∀ (store : Store α) id, (store.scope tenant).owns id =
      (store.rowsOf tenant).campaigns.any fun campaign => campaign.id == id := by
    intro store id
    exact (List.any_filter ..).symm
  refine congrArg (Scope.mk tenant) (funext fun id => ?_)
  exact (owns other id).trans ((congrArg (fun rows : Store α => rows.campaigns.any _) same).trans
    (owns store id).symm)

/-! ### Rows that change in place -/

section InPlace

variable {keep : ρ → Bool}

/-- Where rows have been changed in place, those that are in a scope are the changed ones. -/
theorem filter_map_of_kept {change : ρ → ρ} (kept : ∀ row, keep (change row) = keep row)
    (rows : List ρ) : (rows.map change).filter keep = (rows.filter keep).map change := by
  rw [List.filter_map]
  exact congrArg (List.map change) (List.filter_congr fun row _ => kept row)

/-- Rows that have not been changed are the same. -/
theorem filter_map_of_still {change : ρ → ρ} {rows : List ρ}
    (kept : ∀ row, keep (change row) = keep row)
    (still : ∀ row ∈ rows, keep row = true → change row = row) :
    (rows.map change).filter keep = rows.filter keep := by
  rw [filter_map_of_kept kept]
  refine (List.map_congr_left fun row member => ?_).trans (List.map_id _)
  obtain ⟨member, keeps⟩ := List.mem_filter.mp member
  exact still row member keeps

variable {step : ρ → Except Failure ρ} {rows : List ρ}
  (still : ∀ row ∈ rows, keep row = false → step row = .ok row)
  (kept : ∀ row changed, step row = .ok changed → keep changed = keep row)

include still kept

/-- A change that can fail fails on the rows in a scope alone. -/
theorem filter_mapM : (rows.mapM step).map (List.filter keep) = (rows.filter keep).mapM step := by
  induction rows with
  | nil => rfl
  | cons row rest ih =>
    obtain ⟨here, there⟩ := List.forall_mem_cons.mp still
    rw [List.mapM_cons, List.filter_cons]
    cases keeps : keep row with
    | false =>
      rw [here keeps, if_neg Bool.false_ne_true, ← ih there]
      cases rest.mapM step with
      | error failure => rfl
      | ok others => exact congrArg Except.ok (List.filter_cons_of_neg (by simp [keeps]))
    | true =>
      rw [if_pos rfl, List.mapM_cons, ← ih there]
      cases changes : step row with
      | error failure => rfl
      | ok changed =>
        cases rest.mapM step with
        | error failure => rfl
        | ok others =>
          exact congrArg Except.ok (List.filter_cons_of_pos ((kept row changed changes).trans keeps))

theorem filter_not_mapM {changed : List ρ} (ok : rows.mapM step = .ok changed) :
    (changed.filter fun row => !keep row) = rows.filter fun row => !keep row := by
  induction rows generalizing changed with
  | nil =>
    cases ok
    rfl
  | cons row rest ih =>
    obtain ⟨here, there⟩ := List.forall_mem_cons.mp still
    rw [List.mapM_cons] at ok
    obtain ⟨first, firstOk, ok⟩ := ok_of_bind ok
    obtain ⟨others, othersOk, ok⟩ := ok_of_bind ok
    cases ok
    rw [List.filter_cons, List.filter_cons, kept row first firstOk, ih there othersOk]
    cases keeps : keep row with
    | true => rfl
    | false =>
      rw [here keeps] at firstOk
      cases firstOk
      rfl

omit still kept in
/-- What no change touches is the same in every row. -/
theorem map_of_mapM {κ : Type} {key : ρ → κ}
    (keys : ∀ row changed, step row = .ok changed → key changed = key row) {changed : List ρ}
    (ok : rows.mapM step = .ok changed) : changed.map key = rows.map key := by
  have related := forall₂_of_mapM ok
  clear ok
  induction related with
  | nil => rfl
  | cons head _ ih => rw [List.map_cons, List.map_cons, keys _ _ head, ih]

end InPlace

/-! ### Campaigns -/

section Campaigns

variable {id : Int} {condition : Campaign α → Bool} {change : Campaign α → Campaign α}
  (keeps : KeepsTerms change)

include keeps

theorem id_changed (campaign : Campaign α) : (change campaign).id = campaign.id := by
  have same : (change campaign).terms.id = campaign.terms.id := congrArg Campaign.id (keeps campaign)
  exact same

theorem tenant_changed (campaign : Campaign α) : (change campaign).tenant = campaign.tenant := by
  have same : (change campaign).terms.tenant = campaign.terms.tenant :=
    congrArg Campaign.tenant (keeps campaign)
  exact same

theorem tenant_updated (keep : String → Bool) (campaign : Campaign α) :
    keep (if campaign.id == id && condition campaign then change campaign else campaign).tenant =
      keep campaign.tenant := by
  split
  · exact congrArg keep (tenant_changed keeps campaign)
  · rfl

theorem seen_updateCampaign (store : Store α) :
    (store.updateCampaign id condition change).seen scope =
      (store.seen scope).updateCampaign id condition change := by
  simp only [updateCampaign, seen, unnumbered, pick]
  rw [filter_map_of_kept (tenant_updated keeps (· == scope.tenant))]

theorem stays_updateCampaign (own : scope.owns id = true) {store : Store α}
    (fits : store.Fits scope) : Stays scope store (store.updateCampaign id condition change) := by
  refine ⟨?_, ?_, fun kind => by cases kind <;> rfl⟩
  · rw [updateCampaign, Store.keys, List.map_map]
    refine List.map_congr_left fun campaign _ => ?_
    simp only [Function.comp_apply]
    split
    · exact Prod.ext (id_changed keeps campaign) (tenant_changed keeps campaign)
    · rfl
  · simp only [updateCampaign, beyond, pick]
    rw [filter_map_of_still (tenant_updated keeps (· != scope.tenant))]
    intro campaign member other
    rw [fits.differs own member (by simpa using other)]
    rfl

end Campaigns

/-- A conditional write to a campaign of a tenant is confined to that tenant. -/
theorem confined_transition {id : Int} (own : scope.owns id = true)
    (allowed : CampaignStatus → Bool) {change : Campaign α → Campaign α}
    (keeps : KeepsTerms change) :
    Confined scope fun store : Store α => do
      let id ← Cell.fitted id
      let happens := (store.campaign? id).any fun campaign => allowed campaign.status
      return (happens, store.updateCampaign id (fun campaign => allowed campaign.status) change) := by
  cases fits : Cell.fitted id with
  | error failure => exact confined_error failure
  | ok fit =>
    cases fitted_eq fits
    refine ⟨⟨fun store => .ok ((store.campaign? id).any fun campaign => allowed campaign.status,
      store.updateCampaign id (fun campaign => allowed campaign.status) change),
        fun store fits => ?_⟩, ?_⟩
    · dsimp only
      rw [campaign?_seen fits own, ← seen_updateCampaign keeps]
      rfl
    · rintro store _ after fits wrote
      cases wrote
      exact stays_updateCampaign keeps own fits

/-- A change of one campaign of a tenant, which may fail, is confined to that tenant. -/
theorem confined_mapM {id : Int} (own : scope.owns id = true)
    {step : Campaign α → Except Failure (Campaign α)}
    (keys : ∀ campaign changed, step campaign = .ok changed →
      (changed.id, changed.tenant) = (campaign.id, campaign.tenant))
    (others : ∀ campaign, (campaign.id == id) = false → step campaign = .ok campaign) :
    Confined scope fun store : Store α => do
      let campaigns ← store.campaigns.mapM step
      return ((), { store with campaigns }) := by
  have kept : ∀ campaign changed : Campaign α, step campaign = .ok changed →
      (changed.tenant == scope.tenant) = (campaign.tenant == scope.tenant) := by
    intro campaign changed ok
    rw [(Prod.mk.inj (keys campaign changed ok)).2]
  have still : ∀ store : Store α, store.Fits scope → ∀ campaign ∈ store.campaigns,
      (campaign.tenant == scope.tenant) = false → step campaign = .ok campaign :=
    fun store fits campaign member beyond => others campaign (fits.differs own member beyond)
  refine ⟨⟨fun store => do
    let campaigns ← store.campaigns.mapM step
    return ((), { store with campaigns }), fun store fits => ?_⟩, ?_⟩
  · change Except.map _ (store.campaigns.mapM step >>= _) =
      ((store.campaigns.filter fun row => row.tenant == scope.tenant).mapM step >>= _)
    rw [← filter_mapM (still store fits) kept]
    cases store.campaigns.mapM step <;> rfl
  · rintro store _ after fits wrote
    obtain ⟨campaigns, mapped, wrote⟩ := ok_of_bind wrote
    cases wrote
    refine ⟨map_of_mapM keys mapped, ?_, fun kind => by cases kind <;> rfl⟩
    · have same := filter_not_mapM (still store fits) kept mapped
      simp only [beyond, pick, bne]
      rw [same]

/-- What a tally adds to the sums of a tenant's campaign is confined to that tenant. -/
theorem confined_applyIn [Amount α] {id : Int} (own : scope.owns id = true) (tally : Tally)
    (count : Option Cell) (now : Moment) :
    Confined scope (Lifecycle.applyIn id tally count now : Store α → _) := by
  unfold Lifecycle.applyIn
  cases fits : Cell.fitted id with
  | error failure => exact confined_error failure
  | ok fit =>
    cases fitted_eq fits
    refine confined_mapM own (fun campaign changed ok => ?_) fun campaign other => ?_
    · split at ok
      · obtain ⟨sms, _, ok⟩ := ok_of_bind ok
        obtain ⟨email, _, ok⟩ := ok_of_bind ok
        cases ok
        rfl
      · cases ok
        rfl
    · exact if_neg (by rw [other]; exact Bool.false_ne_true)

/-! ### Balances -/

section Balances

variable {condition : α → Bool} {update : α → Option α}

/-- The balances of a tenant change as if there were no others. -/
theorem filter_change (tenant : String) (rows : List (Balance α)) :
    (BalanceLedger.change tenant condition update rows).map
        (Prod.map id (List.filter fun row => row.tenant == tenant)) =
      BalanceLedger.change tenant condition update (rows.filter fun row => row.tenant == tenant) := by
  induction rows with
  | nil => rfl
  | cons row rest ih =>
    rw [List.filter_cons]
    by_cases own : (row.tenant == tenant) = true
    · rw [if_pos own, BalanceLedger.change, BalanceLedger.change, ← ih]
      cases BalanceLedger.change tenant condition update rest with
      | error failure => rfl
      | ok changed =>
        simp only [bind, Except.bind, Except.map, Prod.map, own, Bool.true_and]
        cases condition row.amount with
        | false => simp [pure, Except.pure, own]
        | true =>
          cases update row.amount with
          | none => rfl
          | some amount => simp [pure, Except.pure, own]
    · rw [if_neg own, ← ih, BalanceLedger.change]
      rw [Bool.not_eq_true] at own
      cases BalanceLedger.change tenant condition update rest with
      | error failure => rfl
      | ok changed =>
        simp [bind, Except.bind, Except.map, pure, Except.pure, own, Prod.map]

/-- The balances of the others do not change. -/
theorem filter_not_change {tenant : String} {rows changed : List (Balance α)} {count : ℕ}
    (ok : BalanceLedger.change tenant condition update rows = .ok (count, changed)) :
    (changed.filter fun row => row.tenant != tenant) = rows.filter fun row => row.tenant != tenant := by
  induction rows generalizing count changed with
  | nil =>
    cases ok
    rfl
  | cons row rest ih =>
    obtain ⟨⟨others, rest'⟩, restOk, ok⟩ := ok_of_bind ok
    have same := ih restOk
    dsimp only at ok
    split at ok
    · rename_i meets
      have own : (row.tenant == tenant) = true := (Bool.and_eq_true _ _ ▸ meets).1
      split at ok
      · cases ok
        simp only [bne] at same ⊢
        rw [List.filter_cons_of_neg (by simp [own]), List.filter_cons_of_neg (by simp [own]), same]
      · cases ok
    · cases ok
      rw [List.filter_cons, List.filter_cons, same]

/-- A change of a tenant's balances is confined to that tenant. -/
theorem confined_change (tell : ℕ → β) :
    Confined scope fun store : Store α => do
      let (count, balances) ← BalanceLedger.change scope.tenant condition update store.balances
      return (tell count, { store with balances }) := by
  refine ⟨⟨fun store => do
    let (count, balances) ← BalanceLedger.change scope.tenant condition update store.balances
    return (tell count, { store with balances }), fun store _ => ?_⟩, ?_⟩
  · change Except.map _ (BalanceLedger.change scope.tenant condition update store.balances >>= _) =
      (BalanceLedger.change scope.tenant condition update
        (store.balances.filter fun row => row.tenant == scope.tenant) >>= _)
    rw [← filter_change]
    cases BalanceLedger.change scope.tenant condition update store.balances <;> rfl
  · rintro store _ after fits wrote
    obtain ⟨⟨count, balances⟩, changed, wrote⟩ := ok_of_bind wrote
    cases wrote
    refine ⟨rfl, ?_, fun kind => by cases kind <;> rfl⟩
    simp only [beyond, pick]
    rw [filter_not_change changed]

end Balances

theorem confined_deductIn [Amount α] (amount : Decimal) :
    Confined scope (BalanceLedger.deductIn scope.tenant amount : Store α → _) := by
  unfold BalanceLedger.deductIn
  cases (BalanceLedger.stored amount : Except Failure α) with
  | error failure => exact confined_error failure
  | ok cost => exact confined_change fun count => count != 0

theorem confined_addIn [Amount α] (amount : Decimal) :
    Confined scope (BalanceLedger.addIn scope.tenant amount : Store α → _) := by
  unfold BalanceLedger.addIn
  cases (BalanceLedger.stored amount : Except Failure α) with
  | error failure => exact confined_error failure
  | ok cost => exact confined_change fun _ => ()

/-! ### Messages and cooldowns -/

/-- A new message of a tenant's campaign is confined to that tenant, whatever its number is. -/
theorem confined_logIn [Amount α] {campaign : Campaign α} (own : scope.owns campaign.id = true)
    {message : Int → Except Failure (Message α)} (numbered : Message.Numbered campaign message) :
    Confined scope (Send.logIn message) := by
  obtain ⟨made, about, numbers⟩ := numbered
  cases made with
  | error failure =>
    have fails : ∀ store : Store α, Send.logIn message store = .error failure := by
      intro store
      rw [Send.logIn, numbers]
      rfl
    refine ⟨⟨fun _ => .error failure, fun store _ => by rw [fails]; rfl⟩, ?_⟩
    intro store _ after _ wrote
    rw [fails] at wrote
    cases wrote
  | ok row =>
    have logs : ∀ store : Store α, Send.logIn message store = .ok ((), { store with
        messages := store.messages ++ [{ row with id := nextId (store.messages.map Message.id) }] }) := by
      intro store
      rw [Send.logIn, numbers]
      rfl
    have own : scope.owns row.campaign = true := about row rfl ▸ own
    refine ⟨⟨fun store => .ok ((), { store with
      messages := store.messages ++ [{ row with id := 0 }] }), fun store _ => ?_⟩, ?_⟩
    · rw [logs]
      simp [Except.map, seen, unnumbered, pick, own]
    · intro store _ after fits wrote
      rw [logs] at wrote
      cases wrote
      refine ⟨rfl, ?_, fun kind => by cases kind <;> rfl⟩
      simp [beyond, pick, own]

section Cooldowns

variable {campaign : Int} {target : String} {targetId : Int} {now : Moment}

theorem owns_of_isFor (own : scope.owns campaign = true) {row : Cooldown}
    (about : CooldownLedger.isFor campaign target targetId row = true) :
    scope.owns row.campaign = true := by
  simp only [CooldownLedger.isFor, Bool.and_eq_true, beq_iff_eq] at about
  rw [about.1.1, own]

theorem campaign_recorded (keep : Int → Bool) (row : Cooldown) :
    keep (if CooldownLedger.isFor campaign target targetId row then
      { row with sentAt := now } else row).campaign = keep row.campaign := by
  split <;> rfl

/-- A pair of a tenant's campaign is known from that tenant's rows. -/
theorem any_seen (own : scope.owns campaign = true) (store : Store α) :
    (store.seen scope).cooldowns.any (CooldownLedger.isFor campaign target targetId) =
      store.cooldowns.any (CooldownLedger.isFor campaign target targetId) := by
  simp only [seen, unnumbered, pick, List.any_map, List.any_filter, Function.comp_def]
  refine congrArg store.cooldowns.any (funext fun row => ?_)
  change (scope.owns row.campaign && CooldownLedger.isFor campaign target targetId row) = _
  cases about : CooldownLedger.isFor campaign target targetId row with
  | false => exact Bool.and_false _
  | true => rw [owns_of_isFor own about, Bool.and_self]

/-- A cooldown of a tenant's campaign is recorded among that tenant's rows. -/
theorem confined_recordIn (own : scope.owns campaign = true) (tenant : String) :
    Confined scope fun store : Store α =>
      .ok ((), CooldownLedger.recordIn campaign target targetId tenant now store) := by
  let record (row : Cooldown) (store : Store α) : Store α :=
    if store.cooldowns.any (CooldownLedger.isFor campaign target targetId) then
      { store with cooldowns := store.cooldowns.map fun row =>
          if CooldownLedger.isFor campaign target targetId row then { row with sentAt := now }
          else row }
    else { store with cooldowns := store.cooldowns ++ [row] }
  refine ⟨⟨fun store => .ok ((), record ⟨0, tenant, campaign, target, targetId, now, now⟩ store),
    fun store _ => congrArg Except.ok (Prod.ext rfl ?_)⟩, ?_⟩
  · simp only [Prod.map, record, any_seen own, CooldownLedger.recordIn]
    split
    · simp only [seen, unnumbered, pick]
      rw [filter_map_of_kept (campaign_recorded scope.owns), List.map_map, List.map_map]
      congr 1
      refine List.map_congr_left fun row _ => ?_
      dsimp only [Function.comp_apply]
      split <;> rename_i about
      · exact (if_pos about).symm
      · exact (if_neg about).symm
    · simp [seen, unnumbered, pick, own]
  · intro store _ after fits wrote
    cases wrote
    unfold CooldownLedger.recordIn
    split
    · refine ⟨rfl, ?_, fun kind => by cases kind <;> rfl⟩
      simp only [beyond, pick]
      rw [filter_map_of_still (campaign_recorded fun id => !scope.owns id)]
      intro row _ other
      refine if_neg fun about => ?_
      rw [owns_of_isFor own about] at other
      cases other
    · refine ⟨rfl, ?_, fun kind => by cases kind <;> rfl⟩
      simp [beyond, pick, own]

end Cooldowns

end Store

end Herald
