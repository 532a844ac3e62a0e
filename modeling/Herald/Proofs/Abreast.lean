import Herald.Proofs.Alike
import Herald.Proofs.Listing

/-! # Actions that run abreast

Two actions run abreast if they keep related worlds related and have values that belong together. If
the values are the same, they run alike. A walk is compared with another one visit by visit; what is
known of its visits may depend on how the walk goes on, as long as that is never forgotten later.
-/

namespace Herald

variable {σ τ α β γ β' γ' : Type} {R : World σ α → World τ α → Prop}

/-- From related worlds two actions have values that belong together and end in related worlds. -/
def Abreast (R : World σ α → World τ α → Prop) (V : β → γ → Prop) (left : Steady σ α β)
    (right : Steady τ α γ) : Prop :=
  ∀ first second, R first second →
    V (left.run first).1 (right.run second).1 ∧ R (left.run first).2 (right.run second).2

/-- Two results that are values that belong together, or the same failure. -/
inductive BothEnd (V : β → γ → Prop) : Except Failure β → Except Failure γ → Prop
  | ok {value : β} {other : γ} (belong : V value other) : BothEnd V (.ok value) (.ok other)
  | error (failure : Failure) : BothEnd V (.error failure) (.error failure)

theorem BothEnd.same {V : β → β → Prop} (belong : ∀ value, V value value)
    (result : Except Failure β) : BothEnd V result result := by
  cases result with
  | ok value => exact .ok (belong value)
  | error failure => exact .error failure

/-- Two actions are followed step by step. -/
theorem leads_bind_both {left : Steady σ α β} {right : Steady τ α γ} {next : β → Steady σ α β'}
    {next' : γ → Steady τ α γ'} {world : World σ α} {other : World τ α}
    {after : β' → World σ α → γ' → World τ α → Prop} :
    (Leads (left >>= next) world fun value later =>
        Leads (right >>= next') other fun value' later' => after value later value' later') ↔
      Leads left world fun first middle => Leads right other fun first' middle' =>
        Leads (next first) middle fun value later =>
          Leads (next' first') middle' fun value' later' => after value later value' later' :=
  Iff.rfl

/-- An action that is followed twice comes to the same. -/
theorem leads_twice {action : Steady σ α β} {world : World σ α}
    {after : β → World σ α → β → World σ α → Prop} :
    (Leads action world fun value later => Leads action world fun value' later' =>
        after value later value' later') ↔
      Leads action world fun value later => after value later value later := Iff.rfl

section Abreast

variable {V : β → γ → Prop} {W : β' → γ' → Prop}

theorem Alike.abreast {left : Steady σ α β} {right : Steady τ α β} (alike : Alike R left right) :
    Abreast R Eq left right :=
  fun first second related => ⟨(alike first second related).1.symm, (alike first second related).2⟩

theorem Alike.leads {left : Steady σ α β} {right : Steady τ α β} (alike : Alike R left right)
    {world : World σ α} {other : World τ α} (related : R world other) :
    Leads left world fun value after => Leads right other fun value' after' =>
      value' = value ∧ R after after' := alike world other related

theorem abreast_pure {value : β} {other : γ} (belong : V value other) :
    Abreast R V (pure value) (pure other) := fun _ _ related => ⟨belong, related⟩

theorem abreast_bind {left : Steady σ α β} {right : Steady τ α γ} {next : β → Steady σ α β'}
    {next' : γ → Steady τ α γ'} (first : Abreast R V left right)
    (rest : ∀ value other, V value other → Abreast R W (next value) (next' other)) :
    Abreast R W (left >>= next) (right >>= next') := fun world other related =>
  rest _ _ (first world other related).1 _ _ (first world other related).2

/-- What follows two steps that have been taken from certain worlds. -/
theorem abreast_bind_at {left : Steady σ α β} {right : Steady τ α γ} {next : β → Steady σ α β'}
    {next' : γ → Steady τ α γ'} {world : World σ α} {other : World τ α}
    (first : Leads left world fun value later => Leads right other fun value' later' =>
      V value value' ∧ R later later')
    (rest : ∀ value other, V value other → Abreast R W (next value) (next' other)) :
    Leads (left >>= next) world fun value later => Leads (right >>= next') other
      fun value' later' => W value value' ∧ R later later' := rest _ _ first.1 _ _ first.2

/-- What follows actions that run alike goes on from the same value. -/
theorem Alike.abreast_bind {left : Steady σ α β} {right : Steady τ α β} {next : β → Steady σ α β'}
    {next' : β → Steady τ α γ'} (first : Alike R left right)
    (rest : ∀ value, Abreast R W (next value) (next' value)) :
    Abreast R W (left >>= next) (right >>= next') :=
  Herald.abreast_bind first.abreast fun value _ same => same ▸ rest value

/-! ### Actions that may fail -/

theorem abreast_run_pure {value : β} {other : γ} (belong : V value other) :
    Abreast R (BothEnd V) (pure value : Run σ α β).run (pure other : Run τ α γ).run :=
  abreast_pure (.ok belong)

theorem abreast_throw {failure : Failure} :
    Abreast R (BothEnd V) (throw failure : Run σ α β).run (throw failure : Run τ α γ).run :=
  abreast_pure (.error failure)

theorem abreast_run_bind {left : Run σ α β} {right : Run τ α γ} {next : β → Run σ α β'}
    {next' : γ → Run τ α γ'} (first : Abreast R (BothEnd V) left.run right.run)
    (rest : ∀ value other, V value other →
      Abreast R (BothEnd W) (next value).run (next' other).run) :
    Abreast R (BothEnd W) (left >>= next).run (right >>= next').run := by
  rw [ExceptT.run_bind, ExceptT.run_bind]
  refine abreast_bind first ?_
  rintro _ _ (belong | failure)
  · exact rest _ _ belong
  · exact abreast_pure (.error failure)

/-- What follows actions that run alike goes on from the same value, or fails alike. -/
theorem Alike.abreast_run_bind {left : Run σ α β} {right : Run τ α β} {next : β → Run σ α β'}
    {next' : β → Run τ α γ'} (first : Alike R left.run right.run)
    (rest : ∀ value, Abreast R (BothEnd W) (next value).run (next' value).run) :
    Abreast R (BothEnd W) (left >>= next).run (right >>= next').run := by
  rw [ExceptT.run_bind, ExceptT.run_bind]
  refine first.abreast_bind fun result => ?_
  cases result with
  | ok value => exact rest value
  | error failure => exact abreast_pure (.error failure)

end Abreast

/-! ## Walks -/

/-- Two visits that go on in the same way. -/
inductive Visit.Matches (V : β → γ → Prop) : Visit β → Visit γ → Prop
  | next {found : β} {found' : γ} (belong : V found found') : Matches V (.next found) (.next found')
  | stop {found : β} {found' : γ} (belong : V found found') : Matches V (.stop found) (.stop found')
  | giveUp {found : β} {found' : γ} (failure : Failure) (belong : V found found') :
      Matches V (.giveUp found failure) (.giveUp found' failure)

theorem Visit.Matches.mono {V W : β → γ → Prop} {visit : Visit β} {visit' : Visit γ}
    (same : visit.Matches V visit') (weaken : ∀ found found', V found found' → W found found') :
    visit.Matches W visit' := by
  cases same with
  | next belong => exact .next (weaken _ _ belong)
  | stop belong => exact .stop (weaken _ _ belong)
  | giveUp failure belong => exact .giveUp failure (weaken _ _ belong)

/-- Two walks that have come equally far. -/
inductive Walked.Matches (V : β → γ → Prop) : Walked β → Walked γ → Prop
  | more {found : β} {found' : γ} (visited : Nat) (belong : V found found') :
      Matches V (.more found visited) (.more found' visited)
  | done {found : β} {found' : γ} (belong : V found found') : Matches V (.done found) (.done found')
  | failed {found : β} {found' : γ} (failure : Failure) (belong : V found found') :
      Matches V (.failed found failure) (.failed found' failure)

/-- The same is read where the tables have been created alike and tell the same. -/
theorem leads_consult_both {read : Store α → Except Failure β} {world : World σ α}
    {other : World τ α} {after : Except Failure β → World σ α → Except Failure β → World τ α → Prop}
    (created : other.store.created = world.store.created)
    (same : read other.store = read world.store)
    (holds : ∀ result, after result world result other) :
    Leads (Run.consult read : Run σ α β).run world fun result later =>
      Leads (Run.consult read : Run τ α β).run other fun result' later' =>
        after result later result' later' := by
  have alike : Alike (fun before after => before = world ∧ after = other)
      (Run.consult read : Run σ α β).run (Run.consult read : Run τ α β).run := by
    refine alike_run_get_bind ?_
    rintro _ _ ⟨rfl, rfl⟩
    rw [created, same]
    split
    · cases read _ <;> exact alike_pure
    · exact alike_throw
  rw [leads_iff_of_still moves_consult, leads_iff_of_still moves_consult,
    (alike world other ⟨rfl, rfl⟩).1]
  exact holds _

namespace Audience

/-- Visits that go on in the same way at each target, as long as what the first visitor carries is
good; and once it is not, it never is again. -/
structure VisitsAbreast (V : β → World σ α → γ → World τ α → Prop) (Good : β → Prop)
    (visit : β → TargetRecord → Steady σ α (Visit β))
    (visit' : γ → TargetRecord → Steady τ α (Visit γ)) : Prop where
  back : ∀ found target world,
    Leads (visit found target) world fun visited _ => Good visited.found → Good found
  steps : ∀ found found' target world other, V found world found' other →
    Leads (visit found target) world fun visited after =>
      Leads (visit' found' target) other fun visited' after' => Good visited.found →
        visited.Matches (fun found found' => V found after found' after') visited'

namespace VisitsAbreast

variable {audience : Audience} {limit : Option Int} {visit : β → TargetRecord → Steady σ α (Visit β)}
  {visit' : γ → TargetRecord → Steady τ α (Visit γ)} {Good : β → Prop}
  {V : β → World σ α → γ → World τ α → Prop} (abreast : VisitsAbreast V Good visit visit')

include abreast

theorem walkRecords_back (targets : List TargetRecord) (found : β) (visited : Nat)
    (world : World σ α) :
    Leads (audience.walkRecords limit visit targets found visited) world
      fun walked _ => Good walked.found → Good found := by
  refine walkRecords_leads (I := fun later _ => Good later → Good found) targets ?_ found visited
    world id
  intro later world target _ back
  exact (abreast.back later target world).mono fun _ _ good later => back (good later)

theorem walkAfter_back {size : Int} (batches : Nat) (after : Int) (found : β) (visited : Nat)
    (world : World σ α) :
    Leads (audience.walkAfter size limit visit batches after found visited) world
      fun walked _ => Good walked.found → Good found := by
  refine (walkAfter_leaves (I := fun later _ => Good later → Good found)
    (J := fun later _ => Good later → Good found) (fun _ _ => id) ?_ batches after found visited
    world id).mono fun _ _ => Walked.leaves_self.mp
  intro later target world _ back
  exact (abreast.back later target world).mono fun _ _ good =>
    Visit.leaves_self.mpr fun later => back (good later)

omit abreast in
/-- Behind visits that are not good there is nothing to compare. -/
theorem leads_of_not {W : Walked β → World σ α → Walked γ → World τ α → Prop} {good : Prop}
    {left : Steady σ α (Walked β)} {right : Steady τ α (Walked γ)} {world : World σ α}
    {other : World τ α} (bad : ¬ good)
    (back : Leads left world fun walked _ => Good walked.found → good) :
    Leads left world fun walked after => Leads right other fun walked' after' =>
      Good walked.found → W walked after walked' after' :=
  back.mono fun _ _ back => (leads_true _ _).mono fun _ _ _ good => absurd (back good) bad

theorem walkRecords (targets : List TargetRecord) (found : β) (found' : γ) (visited : Nat)
    (world : World σ α) (other : World τ α) (related : V found world found' other) :
    Leads (audience.walkRecords limit visit targets found visited) world fun walked after =>
      Leads (audience.walkRecords limit visit' targets found' visited) other fun walked' after' =>
        Good walked.found →
          walked.Matches (fun found found' => V found after found' after') walked' := by
  induction targets generalizing found found' visited world other with
  | nil => exact fun _ => .more visited related
  | cons target rest ih =>
    rw [Audience.walkRecords, Audience.walkRecords]
    cases audience.predicate.holds target.attributes audience.today with
    | error refusal => exact fun _ => .failed _ related
    | ok matched =>
      cases matched with
      | false => exact ih found found' visited world other related
      | true =>
        dsimp only
        rw [leads_bind_both]
        refine (abreast.steps found found' target world other related).mono
          fun visit middle step => step.mono fun visit' middle' same => ?_
        by_cases good : Good visit.found
        · cases same good with
          | stop belong => exact fun _ => .done belong
          | giveUp failure belong => exact fun _ => .failed failure belong
          | next belong =>
            dsimp only
            split
            · exact fun _ => .done belong
            · exact ih _ _ (visited + 1) middle middle' belong
        · refine leads_of_not good ?_
          cases visit with
          | stop found => exact id
          | giveUp found failure => exact id
          | next found =>
            dsimp only
            split
            · exact id
            · exact abreast.walkRecords_back rest found (visited + 1) middle

section Tables

variable (tables : ∀ found world found' other, V found world found' other →
  other.store.created = world.store.created ∧
    other.store.targets audience.kind = world.store.targets audience.kind)

include tables

theorem walkAfter {size : Int} (batches : Nat) (id : Int) (found : β) (found' : γ) (visited : Nat)
    (world : World σ α) (other : World τ α) (related : V found world found' other) :
    Leads (audience.walkAfter size limit visit batches id found visited) world fun walked after =>
      Leads (audience.walkAfter size limit visit' batches id found' visited) other
        fun walked' after' => Good walked.found →
          walked.Matches (fun found found' => V found after found' after') walked' := by
  induction batches generalizing id found found' visited world other with
  | zero => exact fun _ => .done related
  | succ batches ih =>
    obtain ⟨created, targets⟩ := tables found world found' other related
    have same : audience.batch size id other.store = audience.batch size id world.store := by
      rw [Audience.batch, Audience.batch, after_congr targets]
    rw [Audience.walkAfter, Audience.walkAfter, leads_bind_both]
    refine leads_consult_both created same fun result => ?_
    cases result with
    | error failure => exact fun _ => .failed failure related
    | ok rows =>
      dsimp only
      cases rows.getLast? with
      | none => exact fun _ => .done related
      | some last =>
        dsimp only
        rw [leads_bind_both]
        refine (abreast.walkRecords _ found found' visited world other related).mono
          fun walked middle step => step.mono fun walked' middle' same => ?_
        by_cases good : Good walked.found
        · cases same good with
          | done belong => exact fun _ => .done belong
          | failed failure belong => exact fun _ => .failed failure belong
          | more visited belong => exact ih last.id _ _ visited middle middle' belong
        · refine leads_of_not good ?_
          cases walked with
          | done found => exact fun good => good
          | failed found failure => exact fun good => good
          | more found visited => exact abreast.walkAfter_back batches last.id found visited middle

/-- Walks over the same targets whose visits go on in the same way end in the same way. -/
theorem walk {size : Int} (start : β) (start' : γ) (world : World σ α) (other : World τ α)
    (related : V start world start' other) :
    Leads (audience.walk size limit visit start) world fun result after =>
      Leads (audience.walk size limit visit' start') other fun result' after' => Good result.1 →
        V result.1 after result'.1 after' ∧ result'.2 = result.2 := by
  rw [Audience.walk, Audience.walk]
  split
  · exact fun _ => ⟨related, rfl⟩
  · rw [leads_bind_both, leads_get, leads_get, (tables start world start' other related).2,
      leads_bind_both]
    refine (abreast.walkAfter tables _ 0 start start' 0 world other related).mono
      fun walked middle step => step.mono fun walked' middle' same => ?_
    cases walked with
    | more found visited =>
      intro good
      cases same good with
      | more _ belong => exact ⟨belong, rfl⟩
    | done found =>
      intro good
      cases same good with
      | done belong => exact ⟨belong, rfl⟩
    | failed found failure =>
      intro good
      cases same good with
      | failed _ belong => exact ⟨belong, rfl⟩

end Tables

end VisitsAbreast

end Audience

end Herald
