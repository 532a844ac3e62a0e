import Mathlib.Data.List.Forall2
import Mathlib.Logic.Relation
import Herald.Proofs.Edits
import Herald.Proofs.Lives

/-! # What becomes of a campaign

A stored campaign changes in operations, and where a pass adds up what it has sent. `Becomes` is any
sequence of such changes of one row, and `Store.Proceeds` says of two moments that every campaign of
the first one has become the one of the second. What holds of the rows of a table at any time is
read off the single changes alone.
-/

namespace Herald

variable {σ α : Type} [Amount α] {schedulable : Campaign α → Prop}

/-- An operation is used on a campaign as intended: a pass leaves the sending state in the way that
the campaign's plan determines, and what is scheduled may be so. -/
def Operation.Suits (schedulable : Campaign α → Prop) (old : Campaign α) : Operation → Prop
  | operate (.schedule ..) => schedulable old
  | finish _ exit reason completedAt nextRunAt =>
    ∃ settings outOfBalance now, ∃ campaign : Campaign α, campaign.plan = old.plan ∧
      Pass.leaving settings campaign outOfBalance now =
        .ok ⟨exit.status, reason, completedAt, nextRunAt⟩
  | _ => True

namespace Campaign

/-- A campaign is changed by an operation that is used on it as intended. -/
def Operated (schedulable : Campaign α → Prop) (old new : Campaign α) : Prop :=
  ∃ operation : Operation, operation.Suits schedulable old ∧ operation.Changes old new

/-- One change of a stored campaign. -/
inductive Step (schedulable : Campaign α → Prop) : Campaign α → Campaign α → Prop
  | operated {old new : Campaign α} (operated : Operated schedulable old new) :
    Step schedulable old new
  | summed (old : Campaign α) (sms email : Aggregates α) (targetCount : Cell) (now : Moment) :
    Step schedulable old { old with sms, email, targetCount, updatedAt := now }

/-- What becomes of a stored campaign. -/
def Becomes (schedulable : Campaign α → Prop) : Campaign α → Campaign α → Prop :=
  Relation.ReflTransGen (Step schedulable)

variable {old new : Campaign α}

theorem Step.plan_eq (step : Step schedulable old new) : new.plan = old.plan := by
  cases step with
  | summed => rfl
  | operated operated =>
    obtain ⟨_, _, changes⟩ := operated
    cases changes <;> rfl

/-- What is settled about a campaign when it is made stays so. -/
theorem Becomes.plan_eq (becomes : Becomes schedulable old new) : new.plan = old.plan := by
  induction becomes with
  | refl => rfl
  | tail _ step ih => exact step.plan_eq.trans ih

/-- What holds of a campaign is not lost if no change of a campaign loses it. -/
theorem Becomes.keeps {P : Campaign α → Prop} (becomes : Becomes schedulable old new)
    (steps : ∀ {old new}, Step schedulable old new → P old → P new) (holds : P old) : P new := by
  induction becomes with
  | refl => exact holds
  | tail _ step ih => exact steps step ih

theorem Sums.step {id : Int} {tally : Tally} {count : Option Cell} {now : Moment}
    (sums : Campaign.Sums id tally count now old new) : Becomes schedulable old new := by
  unfold Campaign.Sums at sums
  split at sums
  · obtain ⟨sms, email, _, _, rfl⟩ := sums
    exact .single (.summed ..)
  · rw [sums]
    exact .refl

end Campaign

/-! ## Tables -/

/-- The hours of a run window are whole. -/
def RunWindow.IsWhole (window : RunWindow) : Prop :=
  (∀ start, window.start = some start → ∃ hour, start = .int hour) ∧
    ∀ finish, window.finish = some finish → ∃ hour, finish = .int hour

/-- A draft as it can be submitted: it runs once or again and again, between whole hours if it has a
run window. -/
structure Draft.IsPlain (draft : Draft) : Prop where
  recurrence : draft.recurrence = .oneTime ∨ draft.recurrence = .automated
  window : draft.window.IsWhole

/-- Every campaign of a store has become the one that a later store has under its id, and what is
new there has once been made. -/
structure Store.Proceeds (schedulable : Campaign α → Prop) (before after : Store α) : Prop where
  created : after.created = before.created
  keeps : ∀ {id old}, before.campaign? id = some old →
    ∃ new, after.campaign? id = some new ∧ old.Becomes schedulable new
  makes : ∀ {id new}, before.campaign? id = none → after.campaign? id = some new →
    ∃ tenant now draft, draft.IsPlain ∧
      (Campaign.ofDraft id tenant now draft).Becomes schedulable new
  ascending : Ascending (before.campaigns.map Campaign.id) →
    Ascending (after.campaigns.map Campaign.id)

/-- A relation between stores that campaigns are changed and made along, while the other tables and
what a pass adds up are left aside. -/
structure Store.Follows (schedulable : Campaign α → Prop) (T : Store α → Store α → Prop) :
    Prop where
  apart : ∀ {before after}, after.campaigns = before.campaigns → after.created = before.created →
    T before after
  trans : ∀ {first second third}, T first second → T second third → T first third
  plans : ∀ {before after id old}, T before after → before.campaign? id = some old →
    ∃ new, after.campaign? id = some new ∧ new.plan = old.plan
  makes : ∀ store tenant now (draft : Draft), draft.IsPlain →
    T store { store with campaigns := store.campaigns ++
      [Campaign.ofDraft (nextId (store.campaigns.map Campaign.id)) tenant now draft] }
  changes : ∀ store id condition change, (∀ campaign, (change campaign).id = campaign.id) →
    (∀ old, store.campaign? id = some old → condition old = true →
      Campaign.Operated schedulable old (change old)) →
        T store (store.updateCampaign id condition change)

/-- A relation between stores that what a pass of a campaign adds up moves along. -/
def Store.Adds (T : Store α → Store α → Prop) (id : Int) : Prop :=
  ∀ (store : Store α) tally count now campaigns,
    List.Forall₂ (Campaign.Sums id tally count now) store.campaigns campaigns →
      T store { store with campaigns }

/-- An operation is used as intended in a world. -/
structure Operation.IsProper (schedulable : Campaign α → Prop) (world : World σ α)
    (operation : Operation) : Prop where
  plain : ∀ tenant draft, operation = .create tenant draft → draft.IsPlain
  suits : ∀ id old, operation.target? = some id → world.store.campaign? id = some old →
    operation.Suits schedulable old

namespace Store

variable {T : Store α → Store α → Prop}

theorem Follows.refl (follows : Follows schedulable T) (store : Store α) : T store store :=
  follows.apart rfl rfl

/-- Whatever comes of an operation follows such a relation. -/
theorem Follows.operation (follows : Follows schedulable T) {operation : Operation}
    {world after : World σ α} {result : Except Failure Bool}
    (proper : operation.IsProper schedulable world) (wrote : operation.Wrote world result after) :
    T world.store after.store := by
  cases wrote with
  | refused => exact follows.refl _
  | made creates now => exact follows.makes _ _ _ _ (proper.plain _ _ creates)
  | attempted about ids changes succeeds =>
    exact follows.changes _ _ _ _ ids fun old found holds =>
      ⟨operation, proper.suits _ old about found, changes old found holds⟩

section Proceeds

variable {before after : Store α}

omit [Amount α] in
/-- Rows that have been changed one by one have the ids that they had. -/
theorem ids_of_forall₂ {R : Campaign α → Campaign α → Prop} {rows changed : List (Campaign α)}
    (same : ∀ {old new}, R old new → new.id = old.id) (related : List.Forall₂ R rows changed) :
    changed.map Campaign.id = rows.map Campaign.id := by
  induction related with
  | nil => rfl
  | cons head _ ih => rw [List.map_cons, List.map_cons, same head, ih]

omit [Amount α] in
theorem ids_updateCampaign (store : Store α) (id : Int) (condition : Campaign α → Bool)
    {change : Campaign α → Campaign α} (ids : ∀ campaign, (change campaign).id = campaign.id) :
    (store.updateCampaign id condition change).campaigns.map Campaign.id =
      store.campaigns.map Campaign.id := by
  rw [updateCampaign, List.map_map]
  refine List.map_congr_left fun campaign _ => ?_
  rw [Function.comp_apply]
  split
  · exact ids campaign
  · rfl

theorem Proceeds.trans {first second third : Store α} (left : Proceeds schedulable first second)
    (right : Proceeds schedulable second third) : Proceeds schedulable first third := by
  refine ⟨right.created.trans left.created, fun found => ?_, fun {id new} missing found => ?_,
    right.ascending ∘ left.ascending⟩
  · obtain ⟨middle, there, becomes⟩ := left.keeps found
    obtain ⟨new, beyond, becomes'⟩ := right.keeps there
    exact ⟨new, beyond, becomes.trans becomes'⟩
  · cases here : second.campaign? id with
    | none => exact right.makes here found
    | some middle =>
      obtain ⟨tenant, now, draft, plain, becomes⟩ := left.makes missing here
      obtain ⟨later, beyond, becomes'⟩ := right.keeps here
      cases beyond.symm.trans found
      exact ⟨tenant, now, draft, plain, becomes.trans becomes'⟩

/-- A campaign is made at the end of the table. -/
theorem proceeds_append (store : Store α) (tenant : String) (now : Moment) {draft : Draft}
    (plain : draft.IsPlain) : Proceeds schedulable store
      { store with campaigns := store.campaigns ++
        [Campaign.ofDraft (nextId (store.campaigns.map Campaign.id)) tenant now draft] } := by
  refine ⟨rfl, fun found => ⟨_, campaign?_append found _, .refl⟩,
    fun {id new} missing found => ?_, fun ascending => ?_⟩
  · rw [campaign?, List.find?_append] at found
    rw [campaign?] at missing
    rw [missing, Option.none_or] at found
    have same : new.id = id := by simpa using List.find?_some found
    cases List.mem_singleton.mp (List.mem_of_find?_eq_some found)
    subst same
    exact ⟨tenant, now, draft, plain, .refl⟩
  · rw [List.map_append, List.map_singleton]
    exact ascending.snoc

/-- An operation changes the campaign that it is about. -/
theorem proceeds_updateCampaign (store : Store α) (id : Int) (condition : Campaign α → Bool)
    {change : Campaign α → Campaign α} (ids : ∀ campaign, (change campaign).id = campaign.id)
    (operates : ∀ old, store.campaign? id = some old → condition old = true →
      Campaign.Operated schedulable old (change old)) :
    Proceeds schedulable store (store.updateCampaign id condition change) := by
  have found : ∀ other, (store.updateCampaign id condition change).campaign? other = _ :=
    fun other => campaign?_updateCampaign store id other condition ids
  refine ⟨rfl, fun {other old} here => ?_, fun {other new} missing there => ?_,
    fun ascending => ?_⟩
  · rw [found, here]
    refine ⟨_, rfl, ?_⟩
    dsimp only
    split
    · rename_i holds
      rw [Bool.and_eq_true, beq_iff_eq, campaign?_id here] at holds
      exact .single (.operated (operates old (holds.1 ▸ here) holds.2))
    · exact .refl
  · rw [found, missing] at there
    cases there
  · rwa [ids_updateCampaign store id condition ids]

theorem proceeds_adds (id : Int) : Adds (Proceeds schedulable) id := by
  intro store tally count now campaigns sums
  refine ⟨rfl, fun {other old} found => ?_, fun {other new} missing found => ?_,
    fun ascending => ?_⟩
  · obtain ⟨new, there, sums⟩ := campaign?_of_sums sums found
    exact ⟨new, there, sums.step⟩
  · have related := campaign?_sums sums other
    rw [missing, found] at related
    cases related
  · rwa [ids_of_forall₂ (fun sums => sums.id_eq) sums]

theorem proceeds_follows : Follows schedulable (Proceeds schedulable : Store α → Store α → Prop) where
  apart := by
    intro before after campaigns created
    have same : ∀ id, after.campaign? id = before.campaign? id := fun id => by
      rw [campaign?, campaigns, campaign?]
    refine ⟨created, fun found => ⟨_, (same _).trans found, .refl⟩, fun missing found => ?_,
      fun ascending => campaigns ▸ ascending⟩
    rw [same, missing] at found
    cases found
  trans := Proceeds.trans
  plans := by
    intro before after id old proceeds found
    obtain ⟨new, there, becomes⟩ := proceeds.keeps found
    exact ⟨new, there, becomes.plan_eq⟩
  makes store tenant now _ plain := proceeds_append store tenant now plain
  changes store id condition _ := proceeds_updateCampaign store id condition

end Proceeds

end Store

end Herald
