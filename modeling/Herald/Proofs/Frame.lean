import Herald.Proofs.History
import Herald.Proofs.Log
import Herald.Proofs.Stages
import Herald.Proofs.Sums
import Herald.Proofs.Table

/-! # What passes never change

Passes write the log, the cooldowns, the balances, and the lives and sums of campaigns. Everything
else stays as it is: the definitions, the targets, and what is settled about a campaign when it is
made. `Store.plans` is that rest. The order of the tables is part of it, so a store stays orderly
through any history.
-/

namespace Herald

variable {σ α β : Type}

variable [Amount α]

/-- A campaign without its life and its sums: what is settled about it when it is made. -/
def Campaign.plan (campaign : Campaign α) : Campaign α :=
  { campaign.terms with targetCount := .int 0, sms := .none, email := .none }

/-- What passes never change. -/
def Store.plans (store : Store α) : Store α :=
  { store with
    campaigns := store.campaigns.map Campaign.plan, messages := [], cooldowns := [], balances := [] }

theorem Store.plans_of_standing {before after : Store α}
    (same : after.standing = before.standing) : after.plans = before.plans := by
  have plans : ∀ store : Store α, store.plans = store.standing.plans := by
    intro store
    simp only [plans, standing, List.map_map]
    rfl
  rw [plans after, plans before, same]

theorem Campaign.Sums.plan_eq {id : Int} {tally : Tally} {count : Option Cell} {now : Moment}
    {before after : Campaign α} (sums : Campaign.Sums id tally count now before after) :
    after.plan = before.plan := by
  unfold Campaign.Sums at sums
  split at sums
  · obtain ⟨sms, email, _, _, rfl⟩ := sums
    rfl
  · rw [sums]

theorem plans_of_sums {id : Int} {tally : Tally} {count : Option Cell} {now : Moment}
    {before after : List (Campaign α)}
    (sums : List.Forall₂ (Campaign.Sums id tally count now) before after) :
    after.map Campaign.plan = before.map Campaign.plan := by
  induction sums with
  | nil => rfl
  | cons head _ ih => rw [List.map_cons, List.map_cons, head.plan_eq, ih]

theorem plans_allows : Lifecycle.Allows (Agree fun world : World σ α => world.store.plans) :=
  fun world id condition _ keeps =>
    Store.plans_of_standing (standing_updateCampaign world.store id condition keeps)

theorem plans_apply (id : Int) (tally : Tally) (count : Option Cell) :
    Moves (Agree fun world : World σ α => world.store.plans)
      (Lifecycle.apply id tally count : Run σ α Bool).run :=
  Lifecycle.apply_moves fun world campaigns sums => by
    simp only [Agree, Store.plans, plans_of_sums sums]

/-- Passes change nothing of the plans. -/
theorem OperatedEngine.respects_plans (engine : OperatedEngine σ α) :
    engine.toEngine.Respects (Agree fun world : World σ α => world.store.plans) where
  message := Send.message_moves
    (fun request world => Store.plans_of_standing (engine.exchange_operated request world).standing)
    (fun _ _ => rfl) (fun _ _ => rfl)
  cooldown := record_moves fun _ _ => rfl
  life := plans_allows
  tally := plans_apply
  beforeFinish world := Store.plans_of_standing (engine.beforeFinish_operated world).standing
  journal _ _ := rfl

/-- A campaign keeps its plan under its id. -/
theorem Store.campaign?_plans {before after : Store α} (same : after.plans = before.plans)
    (id : Int) : (after.campaign? id).map Campaign.plan = (before.campaign? id).map Campaign.plan := by
  have planned : ∀ store : Store α, (store.campaign? id).map Campaign.plan =
      store.plans.campaign? id := by
    intro store
    simp only [campaign?, plans, List.find?_map]
    rfl
  rw [planned, planned, same]

/-! ## Order -/

theorem Store.targets_of_plans {before after : Store α} (same : after.plans = before.plans)
    (kind : TargetKind) : after.targets kind = before.targets kind := by
  cases kind with
  | customer => exact show after.plans.customers = before.plans.customers by rw [same]
  | service => exact show after.plans.services = before.plans.services by rw [same]

/-- A store whose tables have been created and stand in the order of their ids. -/
structure Orderly (store : Store α) : Prop where
  created : store.created = true
  targets : ∀ kind, Ascending ((store.targets kind).map Target.id)
  campaigns : Ascending (store.campaigns.map Campaign.id)

theorem Orderly.of_plans {before after : Store α} (orderly : Orderly before)
    (same : after.plans = before.plans) : Orderly after where
  created := (show after.plans.created = before.plans.created by rw [same]).trans orderly.created
  targets kind := Store.targets_of_plans same kind ▸ orderly.targets kind
  campaigns := by
    have ids : ∀ store : Store α, store.plans.campaigns.map Campaign.id =
        store.campaigns.map Campaign.id := by
      intro store
      simp only [Store.plans, List.map_map]
      rfl
    rw [← ids after, same, ids before]
    exact orderly.campaigns

/-- What holds of a store is not lost. -/
def Keeps (P : Store α → Prop) (before after : World σ α) : Prop := P before.store → P after.store

instance (P : Store α → Prop) : IsPreorder (World σ α) (Keeps P) where
  refl _ := id
  trans _ _ _ first second holds := second (first holds)

omit [Amount α] in
theorem targets_withTargets (store : Store α) (kind other : TargetKind) (targets : List Target) :
    (store.withTargets kind targets).targets other =
      if other = kind then targets else store.targets other := by
  cases kind <;> cases other <;> rfl

omit [Amount α] in
theorem Orderly.upsert {schema : AttributeSchema} {now : Moment} {data fields : Fields}
    {externalId : Value} {store after : Store α} {target : Target} (orderly : Orderly store)
    (wrote : Target.put schema now data externalId fields store = .ok (target, after)) :
    Orderly after := by
  obtain ⟨targets, rfl, ids⟩ := Target.put_ids wrote
  have written : Ascending (targets.map Target.id) := by
    rcases ids with same | added
    · exact same ▸ orderly.targets schema.target
    · exact added ▸ (orderly.targets schema.target).snoc
  refine ⟨?_, fun kind => ?_, ?_⟩
  · cases schema.target <;> exact orderly.created
  · rw [targets_withTargets]
    split
    · exact written
    · exact orderly.targets kind
  · cases schema.target <;> exact orderly.campaigns

/-- A new campaign gets the id after the largest one. -/
theorem Orderly.create {store : Store α} (orderly : Orderly store) (tenant : String) (now : Moment)
    (draft : Draft) :
    Orderly { store with campaigns := store.campaigns ++
      [Campaign.ofDraft (nextId (store.campaigns.map Campaign.id)) tenant now draft] } where
  created := orderly.created
  targets := orderly.targets
  campaigns := by
    rw [List.map_append, List.map_singleton]
    exact orderly.campaigns.snoc

theorem History.respects_orderly :
    History.Respects (Keeps Orderly : World σ α → World σ α → Prop) where
  pass engine := Pass.execute_moves
    (engine.respects_plans.mono fun _ _ same orderly => orderly.of_plans same)
  life world id condition change keeps orderly :=
    orderly.of_plans (plans_allows world id condition change keeps)
  create tenant draft := Lifecycle.create_moves fun world now _ orderly =>
    orderly.create tenant now draft
  define tenant target spec := Registry.define_moves fun world now orderly => by
    unfold Registry.put
    split <;> exact ⟨orderly.created, orderly.targets, orderly.campaigns⟩
  upsert _ _ _ _ := Target.upsert_moves fun _ _ _ _ _ wrote orderly => orderly.upsert wrote
  cleanup _ := CooldownLedger.cleanup_moves fun _ _ orderly =>
    ⟨orderly.created, orderly.targets, orderly.campaigns⟩
  elapse _ _ _ := id

omit [Amount α] in
theorem orderly_empty : Orderly (Store.empty : Store α) where
  created := rfl
  targets kind := by cases kind <;> exact ascending_nil
  campaigns := ascending_nil

theorem credit_orderly (tenant : String) (amount : Decimal) :
    Moves (Keeps Orderly) (BalanceLedger.credit tenant amount : Run σ α Decimal).run :=
  BalanceLedger.credit_moves (R := Keeps Orderly)
    (fun _ _ orderly => ⟨orderly.created, orderly.targets, orderly.campaigns⟩) tenant amount

/-- A store is orderly after any history. -/
theorem orderly_after (now : Moment) (outside : σ) (events : List (Event σ α)) :
    Orderly ((World.opened now outside : World σ α).after events).store :=
  History.respects_orderly.history credit_orderly events _ orderly_empty

/-! ## Campaigns and their messages -/

/-- The campaigns of a store and its log. -/
def Store.records (store : Store α) : List (Campaign α) × List (Message α) :=
  (store.campaigns, store.messages)

/-- What is done to the other tables, and the time that passes, leaves campaigns and log alone. -/
structure History.KeepsRecords (R : World σ α → World σ α → Prop) : Prop where
  define : ∀ tenant target spec, Moves R (Registry.define tenant target spec : Run σ α _).run
  upsert : ∀ schema data externalId fields,
    Moves R (Target.upsert schema data externalId fields : Run σ α _).run
  cleanup : ∀ days, Moves R (CooldownLedger.cleanup days : Run σ α _).run
  credit : ∀ tenant amount, Moves R (BalanceLedger.credit tenant amount : Run σ α _).run
  elapse : ∀ (world : World σ α) now outside, R world { world with now, outside }

/-- What is done to the other tables is not seen in what does not look at them. -/
theorem History.keepsRecords_of {κ : Type} {view : Store α → κ}
    (blind : ∀ (store : Store α) definitions customers services cooldowns balances,
      view { store with definitions, customers, services, cooldowns, balances } = view store) :
    History.KeepsRecords (Agree fun world : World σ α => view world.store) where
  define tenant target spec := Registry.define_moves fun world now => by
    unfold Registry.put
    split <;> exact blind world.store ..
  upsert schema _ _ _ := Target.upsert_moves fun world now target store _ wrote => by
    obtain ⟨targets, rfl, _⟩ := Target.put_ids wrote
    cases schema.target <;> exact blind world.store ..
  cleanup _ := CooldownLedger.cleanup_moves fun world _ => blind world.store ..
  credit _ _ := BalanceLedger.credit_moves (fun world _ => blind world.store ..) _ _
  elapse _ _ _ := rfl

theorem History.keepsRecords :
    History.KeepsRecords (Agree fun world : World σ α => world.store.records) :=
  keepsRecords_of fun _ _ _ _ _ _ => rfl

end Herald
