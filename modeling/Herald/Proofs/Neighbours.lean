import Herald.Proofs.Calm
import Herald.Proofs.Isolation

/-! # What a pass does to other campaigns

While nothing around an engine acts on the tables, a pass moves its own campaign alone.
`Store.aside` is what it cannot touch: the rows of all other campaigns as they are, the plan of its
own, and the tables that no pass writes to.
-/

namespace Herald

variable {σ α : Type}

/-- An engine whose surroundings leave the tables alone. -/
structure Engine.SparesTables (engine : Engine σ α) : Prop where
  exchange : ∀ request, Moves (Agree fun world : World σ α => world.store)
    (engine.exchange request).run
  beforeFinish : Moves (Agree fun world : World σ α => world.store) engine.beforeFinish.run

theorem Engine.IsCalm.sparesTables {engine : Engine σ α} (calm : engine.IsCalm) :
    engine.SparesTables where
  exchange request := (calm.exchange request).mono fun _ _ same => congrArg Prod.fst same
  beforeFinish := calm.beforeFinish.mono fun _ _ same => congrArg Prod.fst same

theorem Run.Detached.sparesTables {β : Type} {action : Run σ α β} (detached : action.Detached) :
    Moves (Agree fun world : World σ α => world.store) action.run := by
  obtain ⟨act, acts⟩ := detached
  intro world
  rw [Agree, show action.run.run world = _ from acts world]

theorem Engine.Detached.sparesTables {engine : Engine σ α} (detached : engine.Detached) :
    engine.SparesTables where
  exchange request := (detached.exchange request).sparesTables
  beforeFinish := detached.beforeFinish.sparesTables

/-- What spares the tables is no operator's action either. -/
def Engine.SparesTables.operated {engine : Engine σ α} (spares : engine.SparesTables) :
    OperatedEngine σ α where
  toEngine := engine
  exchange_operated request world := .single (.elapse (spares.exchange request world))
  beforeFinish_operated world := .single (.elapse (spares.beforeFinish world))

variable [Amount α]

/-- A row of which one campaign's pass leaves this: another campaign stays as it is, and the plan of
its own remains. -/
def Campaign.aside (id : Int) (campaign : Campaign α) : Campaign α :=
  if campaign.id == id then campaign.plan else campaign

/-- What a pass of a campaign leaves alone. -/
def Store.aside (id : Int) (store : Store α) : Store α :=
  { store with
    campaigns := store.campaigns.map (Campaign.aside id)
    messages := [], cooldowns := [], balances := [] }

namespace Campaign

variable {id : Int} {campaign : Campaign α}

@[simp] theorem aside_id : (campaign.aside id).id = campaign.id := by
  unfold aside
  split <;> rfl

theorem aside_of_ne (other : campaign.id ≠ id) : campaign.aside id = campaign :=
  if_neg (by simpa using other)

theorem aside_of_plan {new : Campaign α} (own : campaign.id = id) (plan : new.plan = campaign.plan) :
    new.aside id = campaign.aside id := by
  have same : new.plan.id = campaign.plan.id := congrArg Campaign.id plan
  have same : new.id = campaign.id := same
  rw [aside, aside, same, if_pos (beq_iff_eq.mpr own), if_pos (beq_iff_eq.mpr own), plan]

end Campaign

namespace Store

variable {id : Int} {before after : Store α}

/-- A change of the campaign's life is set aside. -/
theorem aside_updateCampaign (store : Store α) (id : Int) (condition : Campaign α → Bool)
    {change : Campaign α → Campaign α} (keeps : KeepsTerms change) :
    (store.updateCampaign id condition change).aside id = store.aside id := by
  simp only [aside, updateCampaign, List.map_map]
  congr 1
  refine List.map_congr_left fun campaign _ => ?_
  simp only [Function.comp_apply]
  split
  · rename_i own
    have planned : (change campaign).plan = campaign.plan := by
      unfold Campaign.plan
      rw [keeps campaign]
    exact Campaign.aside_of_plan (beq_iff_eq.mp (Bool.and_eq_true .. ▸ own).1) planned
  · rfl

theorem aside_of_sums {store : Store α} {tally : Tally} {count : Option Cell} {now : Moment}
    {campaigns : List (Campaign α)}
    (sums : List.Forall₂ (Campaign.Sums id tally count now) store.campaigns campaigns) :
    Store.aside id { store with campaigns } = store.aside id := by
  simp only [aside]
  congr 1
  generalize store.campaigns = rows at sums
  induction sums with
  | nil => rfl
  | @cons old new _ _ head _ ih =>
    rw [List.map_cons, List.map_cons, ih]
    congr 1
    by_cases own : old.id = id
    · exact Campaign.aside_of_plan own head.plan_eq
    · unfold Campaign.Sums at head
      rw [if_neg own] at head
      rw [head]

section Same

variable (same : after.aside id = before.aside id)

include same

theorem created_of_aside : after.created = before.created :=
  show (after.aside id).created = (before.aside id).created by rw [same]

theorem definitions_of_aside : after.definitions = before.definitions :=
  show (after.aside id).definitions = (before.aside id).definitions by rw [same]

theorem ids_of_aside : after.campaigns.map Campaign.id = before.campaigns.map Campaign.id := by
  have ids : ∀ store : Store α,
      (store.aside id).campaigns.map Campaign.id = store.campaigns.map Campaign.id := by
    intro store
    rw [aside, List.map_map]
    exact List.map_congr_left fun campaign _ => Campaign.aside_id
  rw [← ids after, same, ids]

/-- The rows of other campaigns have been there before. -/
theorem mem_of_aside {campaign : Campaign α} (member : campaign ∈ after.campaigns)
    (other : campaign.id ≠ id) : campaign ∈ before.campaigns := by
  have there : campaign ∈ (after.aside id).campaigns :=
    List.mem_map.mpr ⟨campaign, member, Campaign.aside_of_ne other⟩
  rw [same] at there
  obtain ⟨old, member, rfl⟩ := List.mem_map.mp there
  rw [Campaign.aside_id] at other
  rwa [Campaign.aside_of_ne other]

/-- Each row keeps its plan, whosever it is. -/
theorem plan_of_aside {campaign : Campaign α} (member : campaign ∈ after.campaigns) :
    ∃ old ∈ before.campaigns, old.id = campaign.id ∧ campaign.plan = old.plan := by
  have there : campaign.aside id ∈ (after.aside id).campaigns := List.mem_map_of_mem member
  rw [same] at there
  obtain ⟨old, there, same⟩ := List.mem_map.mp there
  have ids : old.id = campaign.id := by
    rw [← Campaign.aside_id, same, Campaign.aside_id]
  refine ⟨old, there, ids, ?_⟩
  by_cases own : campaign.id = id
  · rw [Campaign.aside, if_pos (beq_iff_eq.mpr (ids.trans own)), Campaign.aside,
      if_pos (beq_iff_eq.mpr own)] at same
    exact same.symm
  · rw [Campaign.aside_of_ne own, Campaign.aside_of_ne (ids ▸ own)] at same
    rw [same]

/-- The filter of a campaign compiles as it did. -/
theorem compileIn_of_aside (campaign : Campaign α) :
    Pass.compileIn after campaign = Pass.compileIn before campaign := by
  have definitions := definitions_of_aside same
  simp only [Pass.compileIn, Registry.rows, definitions]

end Same

end Store

namespace Pass

variable {engine : Engine σ α} {id : Int}

theorem transition_aside (allowed : CampaignStatus → Bool) {change : Campaign α → Campaign α}
    (keeps : KeepsTerms change) :
    Moves (Agree fun world : World σ α => world.store.aside id)
      (Lifecycle.transition id allowed change : Run σ α Bool).run := by
  refine moves_iff.mpr fun world => Leads.mono (Lifecycle.transition_ends id allowed change world) ?_
  rintro (failure | changed) after wrote
  · rw [show after = world from wrote]
    rfl
  · rw [wrote.2]
    exact Store.aside_updateCampaign _ id _ keeps

section Own

variable {campaign : Campaign α} (own : campaign.id = id)

include own

theorem apply_aside (tally : Tally) (count : Option Cell) :
    Moves (Agree fun world : World σ α => world.store.aside id)
      (Lifecycle.apply campaign.id tally count : Run σ α Bool).run := by
  subst own
  exact Lifecycle.apply_moves fun _ _ sums => Store.aside_of_sums sums

theorem markFailed_aside (reason : String) :
    Moves (Agree fun world : World σ α => world.store.aside id)
      (Lifecycle.markFailed campaign.id reason : Run σ α Bool).run := by
  subst own
  exact moves_run_bind moves_clock fun _ => transition_aside _ fun _ => rfl

theorem finish_aside (spares : engine.SparesTables) (stopped : Option Stopped) :
    Moves (Agree fun world : World σ α => world.store.aside id)
      (finish engine campaign stopped).run := by
  subst own
  exact finish_moves_of (fun _ _ _ _ => transition_aside _ fun _ => rfl)
    (spares.beforeFinish.mono fun _ _ same => congrArg (Store.aside campaign.id) same) stopped

end Own

theorem journal_aside (id : Int) (line : String) :
    Moves (Agree fun world : World σ α => world.store.aside id)
      (Run.record line : Run σ α Unit).run := fun _ => rfl

theorem Claims.aside_eq {world middle : World σ α} {old campaign : Campaign α}
    (claims : Claims id world old campaign middle) :
    middle.store.aside id = world.store.aside id := by
  rw [claims.middle_eq]
  exact Store.aside_updateCampaign _ id _ fun _ => rfl

theorem reaches_aside (spares : engine.SparesTables) (id : Int) :
    engine.Reaches (Agree fun world : World σ α => world.store.aside id) where
  message := Send.message_moves
    (fun request => (spares.exchange request).mono fun _ _ same => congrArg (Store.aside id) same)
    (fun _ _ => rfl) fun _ _ => rfl
  cooldown := record_moves fun _ _ => rfl

/-- A pass leaves everything alone that is not its own campaign's, or kept in the ledgers and the
log. -/
theorem execute_aside (spares : engine.SparesTables) (id : Int) :
    Moves (Agree fun world : World σ α => world.store.aside id) (execute engine id).run := by
  intro world
  change Ends (execute engine id) world fun _ after => after.store.aside id = world.store.aside id
  refine execute_ends (fun _ => rfl) ?_ ?_
  · intro old campaign isTest count failure middle claims
    have own := claims.id_eq
    have closes := (close_moves_of (apply_aside own) (markFailed_aside own) (journal_aside id) isTest
      ⟨.start, count, false⟩ (.error failure)).leads middle
    exact closes.mono fun _ _ same => same.trans claims.aside_eq
  · intro setting middle walks
    obtain ⟨old, claims, -⟩ := walks.claims
    have own := claims.id_eq
    refine ((walk_moves (reaches_aside spares id) setting).leads middle).mono
      fun walked later walks => ?_
    have concludes := (conclude_moves_of (apply_aside own) (markFailed_aside own) (journal_aside id)
      rfl (finish_aside own spares) walked).leads later
    exact concludes.mono fun _ _ same => same.trans (walks.trans claims.aside_eq)

end Pass

end Herald
