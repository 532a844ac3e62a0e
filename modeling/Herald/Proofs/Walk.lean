import Herald.Proofs.Action
import Herald.Target.Stream

/-! # What a walk over targets keeps

A walk reads its targets in batches and visits the matching ones. What every visit keeps, the walk
keeps, however it ends and whatever the size of a batch.
-/

namespace Herald

variable {σ α β γ : Type}

/-- What a visitor carries after a visit. -/
def Visit.found : Visit β → β
  | .next found => found
  | .stop found => found
  | .giveUp found _ => found

/-- What a visitor carries when a walk has come so far. -/
def Walked.found : Walked β → β
  | .more found _ => found
  | .done found => found
  | .failed found _ => found

/-- What holds behind a visit: `I` if the walk may go on or has been stopped, `J` if it is given
up. -/
def Visit.Leaves (I J : β → World σ α → Prop) (world : World σ α) : Visit β → Prop
  | .next found => I found world
  | .stop found => I found world
  | .giveUp found _ => J found world

/-- What holds when a walk has come so far: `J` if it has failed. -/
def Walked.Leaves (I J : β → World σ α → Prop) (world : World σ α) : Walked β → Prop
  | .more found _ => I found world
  | .done found => I found world
  | .failed found _ => J found world

theorem Visit.leaves_self {I : β → World σ α → Prop} {world : World σ α} {visit : Visit β} :
    visit.Leaves I I world ↔ I visit.found world := by
  cases visit <;> exact Iff.rfl

theorem Walked.leaves_self {I : β → World σ α → Prop} {world : World σ α} {walked : Walked β} :
    walked.Leaves I I world ↔ I walked.found world := by
  cases walked <;> exact Iff.rfl

/-- A visit whose visitor carries something else. -/
def Visit.map (change : β → γ) : Visit β → Visit γ
  | .next found => .next (change found)
  | .stop found => .stop (change found)
  | .giveUp found failure => .giveUp (change found) failure

/-- A walk that has come so far with a visitor that carries something else. -/
def Walked.map (change : β → γ) : Walked β → Walked γ
  | .more found visited => .more (change found) visited
  | .done found => .done (change found)
  | .failed found failure => .failed (change found) failure

namespace Audience

variable {audience : Audience} {limit : Option Int}
  {visit : β → TargetRecord → Steady σ α (Visit β)} {I J : β → World σ α → Prop}

section Leaves

variable (weaken : ∀ found world, I found world → J found world)

include weaken

theorem walkRecords_leaves (targets : List TargetRecord)
    (keeps : ∀ found world, ∀ target ∈ targets, I found world →
      Leads (visit found target) world fun visited after => visited.Leaves I J after)
    (found : β) (visited : Nat) (world : World σ α) (start : I found world) :
    Leads (audience.walkRecords limit visit targets found visited) world
      fun walked after => walked.Leaves I J after := by
  induction targets generalizing found visited world with
  | nil => exact start
  | cons target rest ih =>
    have keepsRest := fun found world other member =>
      keeps found world other (List.mem_cons_of_mem _ member)
    rw [walkRecords]
    cases audience.predicate.holds target.attributes audience.today with
    | error refusal => exact weaken _ _ start
    | ok matched =>
      cases matched with
      | false => exact ih keepsRest found visited world start
      | true =>
        dsimp only
        rw [leads_bind]
        refine (keeps found world target (List.mem_cons_self ..) start).mono ?_
        intro visit after kept
        cases visit with
        | next found =>
          dsimp only
          split
          · exact kept
          · exact ih keepsRest found (visited + 1) after kept
        | stop found => exact kept
        | giveUp found failure => exact kept

theorem walkAfter_leaves {size : Int}
    (keeps : ∀ found target world, target.kind = audience.kind → I found world →
      Leads (visit found target) world fun visited after => visited.Leaves I J after)
    (batches : Nat) (id : Int) (found : β) (visited : Nat) (world : World σ α)
    (start : I found world) :
    Leads (audience.walkAfter size limit visit batches id found visited) world
      fun walked after => walked.Leaves I J after := by
  induction batches generalizing id found visited world with
  | zero => exact start
  | succ batches ih =>
    rw [walkAfter, leads_bind]
    refine leads_of_still moves_consult fun result => ?_
    cases result with
    | error failure => exact weaken _ _ start
    | ok rows =>
      dsimp only
      cases rows.getLast? with
      | none => exact start
      | some last =>
        dsimp only
        rw [leads_bind]
        refine (walkRecords_leaves weaken _ ?_ found visited world start).mono ?_
        · intro found world target member
          obtain ⟨row, _, rfl⟩ := List.mem_map.mp member
          exact keeps found _ world rfl
        · intro walked after kept
          cases walked with
          | more found visited => exact ih last.id found visited after kept
          | done found => exact kept
          | failed found failure => exact kept

/-- What every visit keeps unless it gives up, the walk keeps unless it fails. -/
theorem walk_leaves {size : Int} {start : β} {world : World σ α}
    (keeps : ∀ found target world, target.kind = audience.kind → I found world →
      Leads (visit found target) world fun visited after => visited.Leaves I J after)
    (begun : I start world) :
    Leads (audience.walk size limit visit start) world fun result after =>
      match result with
      | (found, none) => I found after
      | (found, some _) => J found after := by
  rw [walk]
  dsimp only
  split
  · exact begun
  · rw [leads_bind, leads_get, leads_bind]
    refine (walkAfter_leaves weaken keeps _ 0 start 0 world begun).mono ?_
    intro walked after kept
    cases walked <;> exact kept

end Leaves

theorem walkRecords_leads (targets : List TargetRecord)
    (keeps : ∀ found world, ∀ target ∈ targets, I found world →
      Leads (visit found target) world fun visited after => I visited.found after)
    (found : β) (visited : Nat) (world : World σ α) (start : I found world) :
    Leads (audience.walkRecords limit visit targets found visited) world
      fun walked after => I walked.found after :=
  (walkRecords_leaves (fun _ _ => id) targets
    (fun found world target member holds => (keeps found world target member holds).mono
      fun _ _ => Visit.leaves_self.mpr) found visited world start).mono
    fun _ _ => Walked.leaves_self.mp

/-- What every visit keeps, the walk keeps. -/
theorem walk_leads {size : Int} {start : β} {world : World σ α}
    (keeps : ∀ found target world, target.kind = audience.kind → I found world →
      Leads (visit found target) world fun visited after => I visited.found after)
    (begun : I start world) :
    Leads (audience.walk size limit visit start) world fun result after => I result.1 after := by
  refine (walk_leaves (fun _ _ => id) (fun found target world kind holds =>
    (keeps found target world kind holds).mono fun _ _ => Visit.leaves_self.mpr) begun).mono ?_
  rintro ⟨found, failure | failure⟩ after kept <;> exact kept

/-- A walk moves along whatever its visits move along. -/
theorem walk_moves {R : World σ α → World σ α → Prop} [IsPreorder (World σ α) R] {size : Int}
    {start : β} (moves : ∀ found target, Moves R (visit found target)) :
    Moves R (audience.walk size limit visit start) := by
  refine fun world => walk_leads (I := fun _ after => R world after) ?_ (refl world)
  intro found target middle _ reached
  exact IsTrans.trans _ _ _ reached (moves found target middle)

theorem walkRecords_moves {R : World σ α → World σ α → Prop} [IsPreorder (World σ α) R]
    (moves : ∀ found target, Moves R (visit found target)) (targets : List TargetRecord)
    (found : β) (visited : Nat) : Moves R (audience.walkRecords limit visit targets found visited) := by
  refine fun world => walkRecords_leads (I := fun _ after => R world after) targets ?_ found visited
    world (refl world)
  intro found middle target _ reached
  exact IsTrans.trans _ _ _ reached (moves found target middle)

theorem fold_moves {R : World σ α → World σ α → Prop} [IsPreorder (World σ α) R] {size : Int}
    {step : β → TargetRecord → β} {start : β} :
    Moves R (audience.fold size limit step start : Run σ α β).run := by
  refine moves_run_bind (moves_lift (walk_moves fun _ _ => moves_pure)) fun walked => ?_
  rcases walked with ⟨found, failure | failure⟩
  · exact moves_run_pure
  · exact moves_throw

/-! ## Visitors that carry more -/

section Map

variable {change : β → γ} {other : γ → TargetRecord → Steady σ α (Visit γ)}
  (same : ∀ found target world (after : Visit γ → World σ α → Prop),
    Leads (other (change found) target) world after ↔
      Leads (visit found target) world fun visited => after (visited.map change))

include same

theorem walkRecords_map (targets : List TargetRecord) (found : β) (visited : Nat)
    (world : World σ α) (after : Walked γ → World σ α → Prop) :
    Leads (audience.walkRecords limit other targets (change found) visited) world after ↔
      Leads (audience.walkRecords limit visit targets found visited) world
        fun walked => after (walked.map change) := by
  induction targets generalizing found visited world with
  | nil => exact Iff.rfl
  | cons target rest ih =>
    rw [walkRecords, walkRecords]
    cases audience.predicate.holds target.attributes audience.today with
    | error refusal => exact Iff.rfl
    | ok matched =>
      cases matched with
      | false => exact ih found visited world
      | true =>
        dsimp only
        rw [leads_bind, leads_bind, same]
        refine Leads.congr (leads_true _ _) fun visit middle _ => ?_
        cases visit with
        | next found =>
          dsimp only [Visit.map]
          split
          · exact Iff.rfl
          · exact ih found (visited + 1) middle
        | stop found => exact Iff.rfl
        | giveUp found failure => exact Iff.rfl

theorem walkAfter_map {size : Int} (batches : Nat) (id : Int) (found : β) (visited : Nat)
    (world : World σ α) (after : Walked γ → World σ α → Prop) :
    Leads (audience.walkAfter size limit other batches id (change found) visited) world after ↔
      Leads (audience.walkAfter size limit visit batches id found visited) world
        fun walked => after (walked.map change) := by
  induction batches generalizing id found visited world with
  | zero => exact Iff.rfl
  | succ batches ih =>
    rw [walkAfter, walkAfter, leads_bind, leads_bind]
    refine Leads.congr (leads_true _ _) fun result middle _ => ?_
    cases result with
    | error failure => exact Iff.rfl
    | ok rows =>
      dsimp only
      cases rows.getLast? with
      | none => exact Iff.rfl
      | some last =>
        dsimp only
        rw [leads_bind, leads_bind, walkRecords_map same]
        refine Leads.congr (leads_true _ _) fun walked middle _ => ?_
        cases walked with
        | more found visited => exact ih last.id found visited middle
        | done found => exact Iff.rfl
        | failed found failure => exact Iff.rfl

/-- A walk does not depend on what its visitor carries beside what it goes by. -/
theorem walk_map {size : Int} (start : β) (world : World σ α)
    (after : γ × Option Failure → World σ α → Prop) :
    Leads (audience.walk size limit other (change start)) world after ↔
      Leads (audience.walk size limit visit start) world
        fun result => after (change result.1, result.2) := by
  rw [walk, walk]
  split
  · exact Iff.rfl
  · rw [leads_bind, leads_get, leads_bind, leads_bind, leads_get, leads_bind, walkAfter_map same]
    refine Leads.congr (leads_true _ _) fun walked middle _ => ?_
    cases walked <;> exact Iff.rfl

end Map

end Audience

end Herald
