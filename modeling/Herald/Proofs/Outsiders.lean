import Herald.Proofs.Neighbours

/-! # Tables with another campaign

`Store.adding` puts the row of a campaign into the tables. Every access of another campaign's pass
is the same with it and without it, and so is the whole pass, as long as the providers have nothing
to do with the tables.
-/

namespace Herald

variable {σ α β κ ρ : Type}

/-! ## Another row -/

section Rows

variable {idOf : ρ → Int} {row : ρ} {rows : List ρ}

theorem insertById_cons (first : ρ) (rest : List ρ) :
    insertById idOf row (first :: rest) =
      if idOf first < idOf row then first :: insertById idOf row rest else row :: first :: rest := by
  simp only [insertById, List.takeWhile_cons, List.dropWhile_cons, decide_eq_true_eq]
  split <;> rfl

/-- The row stands somewhere among the others. -/
theorem insertById_eq (idOf : ρ → Int) (row : ρ) (rows : List ρ) : ∃ before behind,
    rows = before ++ behind ∧ insertById idOf row rows = before ++ row :: behind :=
  ⟨_, _, List.takeWhile_append_dropWhile.symm, rfl⟩

/-- What changes the others in place can be done before the row is put there. -/
theorem map_insertById {change : ρ → ρ} (same : change row = row)
    (ids : ∀ other, idOf (change other) = idOf other) :
    (insertById idOf row rows).map change = insertById idOf row (rows.map change) := by
  induction rows with
  | nil => exact congrArg ([·]) same
  | cons first rest ih =>
    rw [insertById_cons, List.map_cons, insertById_cons, ids]
    split
    · rw [List.map_cons, ih]
    · rw [List.map_cons, List.map_cons, same]

theorem mapM_insertById {step : ρ → Except Failure ρ} (same : step row = .ok row)
    (ids : ∀ other changed, step other = .ok changed → idOf changed = idOf other) :
    (insertById idOf row rows).mapM step = (rows.mapM step).map (insertById idOf row) := by
  induction rows with
  | nil =>
    change List.mapM step [row] = _
    rw [List.mapM_cons, same]
    rfl
  | cons first rest ih =>
    rw [insertById_cons, List.mapM_cons]
    cases changes : step first with
    | error failure =>
      split
      · rw [List.mapM_cons, changes]
        rfl
      · rw [List.mapM_cons, same, List.mapM_cons, changes]
        rfl
    | ok changed =>
      have id := ids first changed changes
      split
      · rename_i before
        rw [List.mapM_cons, changes, ih]
        cases rest.mapM step with
        | error failure => rfl
        | ok others =>
          refine congrArg Except.ok ?_
          rw [insertById_cons, id, if_pos before]
      · rename_i behind
        rw [List.mapM_cons, same, List.mapM_cons, changes]
        cases rest.mapM step with
        | error failure => rfl
        | ok others =>
          refine congrArg Except.ok ?_
          rw [insertById_cons, id, if_neg behind]

/-- What is looked for among the others is found there. -/
theorem find?_insertById {holds : ρ → Bool} (differs : holds row = false) :
    (insertById idOf row rows).find? holds = rows.find? holds := by
  obtain ⟨before, behind, rfl, same⟩ := insertById_eq idOf row rows
  rw [same, List.find?_append, List.find?_append, List.find?_cons, differs]

/-- The row is found if there is no other one like it. -/
theorem find?_insertById_self {holds : ρ → Bool} (own : holds row = true)
    (others : ∀ other ∈ rows, holds other = false) :
    (insertById idOf row rows).find? holds = some row := by
  obtain ⟨before, behind, rfl, same⟩ := insertById_eq idOf row rows
  have none : before.find? holds = none := List.find?_eq_none.mpr fun other member => by
    rw [others other (List.mem_append_left _ member)]
    exact Bool.false_ne_true
  rw [same, List.find?_append, none, Option.none_or, List.find?_cons, own]

theorem mem_insertById {other : ρ} :
    other ∈ insertById idOf row rows ↔ other = row ∨ other ∈ rows := by
  obtain ⟨before, behind, rfl, same⟩ := insertById_eq idOf row rows
  simp only [same, List.mem_append, List.mem_cons]
  tauto

end Rows

/-! ## Another campaign -/

namespace Store

variable {outsider : Campaign α} {store : Store α}

/-- The tables with another campaign. -/
def adding (outsider : Campaign α) (store : Store α) : Store α :=
  { store with campaigns := insertById Campaign.id outsider store.campaigns }

/-- No campaign of the tables has the id of the other one. -/
def Lacks (outsider : Campaign α) (store : Store α) : Prop :=
  ∀ campaign ∈ store.campaigns, campaign.id ≠ outsider.id

theorem Lacks.of_ids {after : Store α} (lacks : store.Lacks outsider)
    (same : after.campaigns.map Campaign.id = store.campaigns.map Campaign.id) :
    after.Lacks outsider := by
  intro campaign member own
  have there : campaign.id ∈ store.campaigns.map Campaign.id :=
    same ▸ List.mem_map_of_mem member
  obtain ⟨old, there, id⟩ := List.mem_map.mp there
  exact lacks old there (id.trans own)

theorem campaign?_adding {id : Int} (other : id ≠ outsider.id) :
    (store.adding outsider).campaign? id = store.campaign? id :=
  find?_insertById (beq_eq_false_iff_ne.mpr other.symm)

theorem campaign?_adding_self (lacks : store.Lacks outsider) :
    (store.adding outsider).campaign? outsider.id = some outsider :=
  find?_insertById_self BEq.rfl fun campaign member =>
    beq_eq_false_iff_ne.mpr (lacks campaign member)

theorem updateCampaign_adding {id : Int} (other : id ≠ outsider.id)
    {condition : Campaign α → Bool} {change : Campaign α → Campaign α}
    (ids : ∀ campaign, (change campaign).id = campaign.id) :
    (store.adding outsider).updateCampaign id condition change =
      (store.updateCampaign id condition change).adding outsider := by
  rw [updateCampaign, updateCampaign, adding, adding]
  congr 1
  refine map_insertById (if_neg ?_) fun campaign => ?_
  · rw [beq_eq_false_iff_ne.mpr other.symm]
    exact Bool.false_ne_true
  · split
    · exact ids campaign
    · rfl

end Store

/-! ### What is written -/

namespace Store

/-- A write that does to the tables with another campaign what it does without it. -/
structure Sidesteps (outsider : Campaign α) (write : Store α → Except Failure (β × Store α)) :
    Prop where
  same : ∀ store, write (store.adding outsider) =
    (write store).map (Prod.map id (Store.adding outsider))
  ids : ∀ store value after, write store = .ok (value, after) →
    after.campaigns.map Campaign.id = store.campaigns.map Campaign.id

variable {outsider : Campaign α}

theorem sidesteps_error (failure : Failure) :
    Sidesteps outsider (fun _ => .error failure : Store α → Except Failure (β × Store α)) where
  same _ := rfl
  ids _ _ _ wrote := by cases wrote

/-- What has nothing to do with campaigns sidesteps each of them. -/
theorem sidesteps_of_ignores {write : Store α → Except Failure (β × Store α)}
    (ignores : ∀ (store : Store α) campaigns, write { store with campaigns } =
      (write store).map (Prod.map id fun after => { after with campaigns })) :
    Sidesteps outsider write := by
  have keeps : ∀ store value after, write store = .ok (value, after) →
      after.campaigns = store.campaigns := by
    intro store value after wrote
    have same := ignores store store.campaigns
    rw [show write { store with campaigns := store.campaigns } = write store from rfl, wrote] at same
    exact congrArg (fun written : β × Store α => written.2.campaigns) (Except.ok.inj same)
  refine ⟨fun store => ?_, fun store value after wrote => by rw [keeps _ _ _ wrote]⟩
  rw [adding, ignores]
  cases wrote : write store with
  | error failure => rfl
  | ok written =>
    refine congrArg Except.ok (Prod.ext rfl ?_)
    simp only [Prod.map, adding, keeps _ _ _ wrote]

/-- So does a conditional write to another campaign. -/
theorem sidesteps_transition {id : Int} (other : id ≠ outsider.id)
    (allowed : CampaignStatus → Bool) {change : Campaign α → Campaign α}
    (keeps : KeepsTerms change) :
    Sidesteps outsider fun store : Store α => do
      let id ← Cell.fitted id
      let happens := (store.campaign? id).any fun campaign => allowed campaign.status
      return (happens, store.updateCampaign id (fun campaign => allowed campaign.status) change) := by
  cases fits : Cell.fitted id with
  | error failure => exact sidesteps_error failure
  | ok fit =>
    cases fitted_eq fits
    have ids := fun campaign => id_changed keeps campaign
    refine ⟨fun store => ?_, ?_⟩
    · simp only [bind, Except.bind, campaign?_adding other, updateCampaign_adding other ids]
      rfl
    · rintro store _ after wrote
      cases wrote
      rw [updateCampaign, List.map_map]
      refine List.map_congr_left fun campaign _ => ?_
      simp only [Function.comp_apply]
      split
      · exact ids campaign
      · rfl

/-- So does a change of the others, even one that may fail. -/
theorem sidesteps_mapM {step : Campaign α → Except Failure (Campaign α)}
    (still : step outsider = .ok outsider)
    (ids : ∀ campaign changed, step campaign = .ok changed → changed.id = campaign.id) :
    Sidesteps outsider fun store : Store α => do
      let campaigns ← store.campaigns.mapM step
      return ((), { store with campaigns }) where
  same store := by
    simp only [adding, mapM_insertById still ids]
    cases store.campaigns.mapM step <;> rfl
  ids store _ after wrote := by
    obtain ⟨campaigns, mapped, wrote⟩ := ok_of_bind wrote
    cases wrote
    exact map_of_mapM ids mapped

theorem sidesteps_logIn (message : Int → Except Failure (Message α)) :
    Sidesteps outsider (Send.logIn message) := by
  refine sidesteps_of_ignores fun store campaigns => ?_
  unfold Send.logIn
  dsimp only
  cases message (nextId (store.messages.map Message.id)) <;> rfl

theorem sidesteps_recordIn (campaign targetId : Int) (target tenant : String) (now : Moment) :
    Sidesteps outsider fun store : Store α => do
      let id ← Cell.fitted campaign
      let other ← Cell.fitted targetId
      return ((), CooldownLedger.recordIn id target other tenant now store) := by
  cases (Cell.fitted campaign : Except Failure Int) with
  | error failure => exact sidesteps_error failure
  | ok id =>
    cases (Cell.fitted targetId : Except Failure Int) with
    | error failure => exact sidesteps_error failure
    | ok other =>
      refine sidesteps_of_ignores fun store campaigns => congrArg Except.ok (Prod.ext rfl ?_)
      simp only [Prod.map, CooldownLedger.recordIn]
      split <;> rfl

section Amounts

variable [Amount α]

theorem sidesteps_deductIn (tenant : String) (amount : Decimal) :
    Sidesteps outsider (BalanceLedger.deductIn tenant amount : Store α → _) := by
  unfold BalanceLedger.deductIn
  cases (BalanceLedger.stored amount : Except Failure α) with
  | error failure => exact sidesteps_error failure
  | ok cost =>
    refine sidesteps_of_ignores fun store campaigns => ?_
    simp only [bind, Except.bind]
    cases BalanceLedger.change tenant (fun balance => Amount.covers balance cost)
      (fun balance => Amount.sub? balance cost) store.balances <;> rfl

theorem sidesteps_addIn (tenant : String) (amount : Decimal) :
    Sidesteps outsider (BalanceLedger.addIn tenant amount : Store α → _) := by
  unfold BalanceLedger.addIn
  cases (BalanceLedger.stored amount : Except Failure α) with
  | error failure => exact sidesteps_error failure
  | ok cost =>
    refine sidesteps_of_ignores fun store campaigns => ?_
    simp only [bind, Except.bind]
    cases BalanceLedger.change tenant (fun _ => true)
      (fun balance => Amount.add? balance cost) store.balances <;> rfl

/-- A tally is added to the sums of another campaign alone. -/
theorem sidesteps_applyIn {id : Int} (other : id ≠ outsider.id) (tally : Tally)
    (count : Option Cell) (now : Moment) :
    Sidesteps outsider (Lifecycle.applyIn id tally count now : Store α → _) := by
  unfold Lifecycle.applyIn
  cases fits : Cell.fitted id with
  | error failure => exact sidesteps_error failure
  | ok fit =>
    cases fitted_eq fits
    refine sidesteps_mapM (if_neg ?_) fun campaign changed ok => ?_
    · rw [beq_eq_false_iff_ne.mpr other.symm]
      exact Bool.false_ne_true
    · split at ok
      · obtain ⟨sms, _, ok⟩ := ok_of_bind ok
        obtain ⟨email, _, ok⟩ := ok_of_bind ok
        cases ok
        rfl
      · cases ok
        rfl

end Amounts

end Store

/-! ### What runs alike -/

/-- The world with another campaign in its tables. -/
abbrev World.adding (outsider : Campaign α) (world : World σ α) : World σ α :=
  { world with store := world.store.adding outsider }

/-- Two worlds of which the other one has a campaign more. -/
structure Extra (outsider : Campaign α) (world other : World σ α) : Prop where
  now_eq : other.now = world.now
  journal_eq : other.journal = world.journal
  outside_eq : other.outside = world.outside
  store_eq : other.store = world.store.adding outsider
  lacks : world.store.Lacks outsider

namespace Extra

variable {outsider : Campaign α}

theorem eq {world other : World σ α} (extra : Extra outsider world other) :
    other = world.adding outsider := by
  obtain ⟨store, now, journal, outside⟩ := other
  obtain ⟨rfl, rfl, rfl, rfl, -⟩ := extra
  rfl

theorem clock : Alike (Extra outsider : World σ α → World σ α → Prop)
    (Run.clock : Run σ α Moment).run (Run.clock : Run σ α Moment).run :=
  fun _ _ extra => ⟨congrArg Except.ok extra.now_eq, extra⟩

theorem journal (line : String) : Alike (Extra outsider : World σ α → World σ α → Prop)
    (Run.record line : Run σ α Unit).run (Run.record line : Run σ α Unit).run :=
  fun _ _ extra => ⟨rfl, { extra with journal_eq := congrArg (· ++ [line]) extra.journal_eq }⟩

theorem consult {read : Store α → Except Failure β}
    (same : ∀ store : Store α, store.Lacks outsider → read (store.adding outsider) = read store) :
    Alike (Extra outsider : World σ α → World σ α → Prop) (Run.consult read : Run σ α β).run
      (Run.consult read : Run σ α β).run := by
  refine alike_run_get_bind fun world other extra => ?_
  rw [extra.store_eq, same world.store extra.lacks]
  split
  · rw [if_pos (show (world.store.adding outsider).created = true from ‹_›)]
    cases read world.store <;> exact alike_pure
  · rw [if_neg (show ¬(world.store.adding outsider).created = true from ‹_›)]
    exact alike_throw

theorem query {read : Store α → β}
    (same : ∀ store : Store α, store.Lacks outsider → read (store.adding outsider) = read store) :
    Alike (Extra outsider : World σ α → World σ α → Prop) (Run.query read : Run σ α β).run
      (Run.query read : Run σ α β).run := by
  refine alike_run_get_bind fun world other extra => ?_
  rw [extra.store_eq, same world.store extra.lacks]
  split
  · rw [if_pos (show (world.store.adding outsider).created = true from ‹_›)]
    exact alike_run_pure
  · rw [if_neg (show ¬(world.store.adding outsider).created = true from ‹_›)]
    exact alike_throw

/-- What sidesteps the campaign is written alike. -/
theorem commit {write : Store α → Except Failure (β × Store α)}
    (sidesteps : Store.Sidesteps outsider write) :
    Alike (Extra outsider : World σ α → World σ α → Prop) (Run.commit write : Run σ α β).run
      (Run.commit write : Run σ α β).run := by
  refine alike_run_get_bind fun world other extra => ?_
  rw [extra.store_eq, sidesteps.same world.store]
  split
  · rw [if_pos (show (world.store.adding outsider).created = true from ‹_›)]
    cases wrote : write world.store with
    | error failure => exact alike_pure
    | ok written =>
      exact fun _ _ _ => ⟨rfl, {
        extra with
        store_eq := rfl
        lacks := extra.lacks.of_ids (sidesteps.ids _ _ _ wrote) }⟩
  · rw [if_neg (show ¬(world.store.adding outsider).created = true from ‹_›)]
    exact alike_throw

theorem detached {action : Run σ α β} (detached : action.Detached) :
    Alike (Extra outsider) action.run action.run := by
  obtain ⟨act, acts⟩ := detached
  intro world other extra
  have here : action.run.run world = _ := acts world
  have there : action.run.run other = _ := acts other
  rw [here, there, extra.now_eq, extra.outside_eq]
  exact ⟨rfl, { extra with now_eq := rfl, outside_eq := rfl }⟩

theorem sharesTargets :
    SharesTargets (Extra outsider : World σ α → World σ α → Prop) where
  created_eq _ _ extra := by rw [extra.store_eq]; rfl
  targets_eq _ _ extra kind := by
    rw [extra.store_eq]
    cases kind <;> rfl

variable [Amount α]

/-- Passes of every other campaign run alike. -/
theorem parallel {engine : Engine σ α} (detached : engine.Detached) {id : Int}
    (other : id ≠ outsider.id) :
    Parallel engine engine id (fun campaign => campaign.id = id) (Extra outsider) where
  settings_eq := rfl
  provider_eq _ := rfl
  own_id _ own := own
  own_terms campaign other same own := by
    have ids : other.terms.id = campaign.terms.id := congrArg Campaign.id same
    exact ids.trans own
  finds _ _ _ _ found := campaign?_id found
  clock := clock
  get? := consult fun store _ => by
    cases fitted : Cell.fitted id with
    | error failure => rfl
    | ok fit =>
      cases fitted_eq fitted
      simp only [bind, Except.bind, Store.campaign?_adding other]
  status? := query fun store _ => by rw [Store.campaign?_adding other]
  transition allowed change keeps := alike_run_bind clock fun now =>
    commit (Store.sidesteps_transition other allowed fun campaign => keeps campaign)
  adds tally count now := commit (Store.sidesteps_applyIn other tally count now)
  definitions campaign own := query fun store _ => rfl
  cooled campaign start own := consult fun store _ => rfl
  messaged campaign own := query fun store _ => rfl
  walk campaign audience limit visit visit' start own tenant visits :=
    sharesTargets.walk visits _ start
  log campaign message own numbered := commit (Store.sidesteps_logIn message)
  pays campaign amount own := commit (Store.sidesteps_deductIn campaign.tenant amount)
  repays campaign amount own := commit (Store.sidesteps_addIn campaign.tenant amount)
  cooldown campaign kind target own := alike_run_bind clock fun now =>
    commit (Store.sidesteps_recordIn campaign.id target kind campaign.tenant now)
  journal := journal
  exchange request := Extra.detached (detached.exchange request)
  beforeFinish := Extra.detached detached.beforeFinish

end Extra

end Herald
