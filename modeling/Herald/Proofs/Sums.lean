import Mathlib.Data.List.Forall2
import Herald.Proofs.Standing

/-! # What a tally adds up to

A pass writes its tally once, in a single write that changes the sums of its campaign and nothing
else. `Campaign.Sums` is that change, row by row of the table of campaigns.
-/

namespace Herald

variable {σ α β : Type}

theorem forall₂_of_mapM {f : α → Except Failure β} {list : List α} {mapped : List β}
    (ok : list.mapM f = .ok mapped) :
    List.Forall₂ (fun before after => f before = .ok after) list mapped := by
  induction list generalizing mapped with
  | nil =>
    cases ok
    exact .nil
  | cons first rest ih =>
    rw [List.mapM_cons] at ok
    obtain ⟨head, headOk, ok⟩ := ok_of_bind ok
    obtain ⟨tail, tailOk, ok⟩ := ok_of_bind ok
    cases ok
    exact .cons headOk (ih tailOk)

theorem exists_ok_mapM {f : α → Except Failure β} {list : List α}
    (ok : ∀ first ∈ list, ∃ mapped, f first = .ok mapped) : ∃ mapped, list.mapM f = .ok mapped := by
  induction list with
  | nil => exact ⟨[], rfl⟩
  | cons first rest ih =>
    obtain ⟨head, tail⟩ := List.forall_mem_cons.mp ok
    rw [List.mapM_cons]
    exact exists_ok_bind head fun _ => exists_ok_bind (ih tail) fun _ => ⟨_, rfl⟩

variable [Amount α]

/-- What becomes of a campaign when a tally is added to the sums of the campaign of an id. -/
def Campaign.Sums (id : Int) (tally : Tally) (count : Option Cell) (now : Moment)
    (before after : Campaign α) : Prop :=
  if before.id = id then
    ∃ sms email, tally.sms.addTo before.sms = .ok sms ∧ tally.email.addTo before.email = .ok email ∧
      after = { before with
        sms, email, targetCount := count.getD before.targetCount, updatedAt := now }
  else after = before

/-- Adding a tally changes the sums of its campaign and nothing else. -/
theorem Lifecycle.applyIn_ok {id : Int} {tally : Tally} {count : Option Cell} {now : Moment}
    {store after : Store α} (wrote : applyIn id tally count now store = .ok ((), after)) :
    ∃ campaigns, after = { store with campaigns } ∧
      List.Forall₂ (Campaign.Sums id tally count now) store.campaigns campaigns := by
  obtain ⟨fit, fits, wrote⟩ := ok_of_bind wrote
  obtain ⟨campaigns, mapped, wrote⟩ := ok_of_bind wrote
  cases wrote
  cases fitted_eq fits
  refine ⟨campaigns, rfl, (forall₂_of_mapM mapped).imp ?_⟩
  intro before after sums
  unfold Campaign.Sums
  by_cases same : before.id = id
  · simp only [same, BEq.rfl, ↓reduceIte] at sums ⊢
    obtain ⟨sms, smsSums, sums⟩ := ok_of_bind sums
    obtain ⟨email, emailSums, sums⟩ := ok_of_bind sums
    cases sums
    exact ⟨sms, email, smsSums, emailSums, rfl⟩
  · have differs : (before.id == id) = false := beq_eq_false_iff_ne.mpr same
    simp only [differs, Bool.false_eq_true, ↓reduceIte] at sums
    cases sums
    simp only [same, ↓reduceIte]

namespace Lifecycle

/-- Adding a tally either fails, and leaves everything as it is, or is one write; there is none if
there is nothing to write. -/
theorem apply_ends (id : Int) (tally : Tally) (count : Option Cell) (world : World σ α) :
    Ends (apply id tally count) world fun result after =>
      match result with
      | .error _ => after = world
      | .ok applied =>
        if applied then
          ∃ campaigns, after = { world with store := { world.store with campaigns } } ∧
            List.Forall₂ (Campaign.Sums id tally count world.now) world.store.campaigns campaigns
        else after = world ∧ tally.isEmpty = true ∧ count = none := by
  unfold apply
  by_cases nothing : (tally.isEmpty && count.isNone) = true
  · rw [if_pos nothing]
    rw [Bool.and_eq_true, Option.isNone_iff_eq_none] at nothing
    exact ⟨rfl, nothing⟩
  · rw [if_neg nothing, ends_bind, ends_clock]
    dsimp only
    rw [ends_bind]
    refine ends_commit_of (fun failure => rfl) fun value store wrote => ?_
    obtain ⟨campaigns, rfl, sums⟩ := applyIn_ok wrote
    exact ⟨campaigns, rfl, sums⟩

theorem apply_moves {R : World σ α → World σ α → Prop} [IsPreorder (World σ α) R] {id : Int}
    {tally : Tally} {count : Option Cell}
    (adds : ∀ (world : World σ α) campaigns,
      List.Forall₂ (Campaign.Sums id tally count world.now) world.store.campaigns campaigns →
        R world { world with store := { world.store with campaigns } }) :
    Moves R (apply id tally count : Run σ α Bool).run := by
  refine moves_iff.mpr fun world => Leads.mono (apply_ends id tally count world) ?_
  rintro (failure | applied) after wrote
  · cases wrote
    exact refl world
  · cases applied with
    | true =>
      obtain ⟨campaigns, rfl, sums⟩ := wrote
      exact adds world campaigns sums
    | false =>
      cases wrote.1
      exact refl world

end Lifecycle

namespace Campaign.Sums

variable {id : Int} {tally : Tally} {count : Option Cell} {now : Moment}
  {before after : Campaign α}

theorem id_eq (sums : Campaign.Sums id tally count now before after) : after.id = before.id := by
  unfold Campaign.Sums at sums
  split at sums
  · obtain ⟨sms, email, _, _, rfl⟩ := sums
    rfl
  · rw [sums]

theorem status_eq (sums : Campaign.Sums id tally count now before after) :
    after.status = before.status := by
  unfold Campaign.Sums at sums
  split at sums
  · obtain ⟨sms, email, _, _, rfl⟩ := sums
    rfl
  · rw [sums]

theorem targetCount_eq {known : Cell} (sums : Campaign.Sums id tally (some known) now before after)
    (same : before.id = id) : after.targetCount = known := by
  rw [Campaign.Sums, if_pos same] at sums
  obtain ⟨sms, email, _, _, rfl⟩ := sums
  rfl

end Campaign.Sums

section Found

variable {id other : Int} {tally : Tally} {count : Option Cell} {now : Moment} {store : Store α}
  {campaigns : List (Campaign α)}
  (sums : List.Forall₂ (Campaign.Sums id tally count now) store.campaigns campaigns)

include sums

theorem campaign?_sums (other : Int) :
    Option.Rel (Campaign.Sums id tally count now) (store.campaign? other)
      ({ store with campaigns }.campaign? other) := by
  simp only [Store.campaign?]
  generalize store.campaigns = before at sums
  induction sums with
  | nil => exact .none
  | @cons before after _ _ head _ ih =>
    rw [List.find?_cons, List.find?_cons, head.id_eq]
    cases before.id == other with
    | true => exact .some head
    | false => exact ih

/-- Each campaign is found again with its sums changed. -/
theorem campaign?_of_sums {before : Campaign α} (found : store.campaign? other = some before) :
    ∃ after, ({ store with campaigns }.campaign? other) = some after ∧
      Campaign.Sums id tally count now before after := by
  have related := campaign?_sums sums other
  rw [found] at related
  generalize ({ store with campaigns }.campaign? other) = after at related ⊢
  cases related with
  | some sums => exact ⟨_, rfl, sums⟩

end Found

end Herald
