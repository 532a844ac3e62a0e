import Herald.Proofs.Table
import Herald.Proofs.Walk
import Herald.Proofs.Standing

/-! # A walk is one pass over a list

A walk reads its targets batch by batch, each time those after the last id of the batch before. As
long as its visits leave the table of targets alone, it comes to the same as reading the whole table
once: no target is missed and none is met twice, whatever the size of a batch.
-/

namespace Herald

variable {σ α β : Type}

/-- What a walk ends with when it has come so far. -/
def Walked.result : Walked β → β × Option Failure
  | .more found _ => (found, none)
  | .done found => (found, none)
  | .failed found failure => (found, some failure)

/-- The part of a world that a walk reads. -/
def World.table (kind : TargetKind) (world : World σ α) : Bool × List Target :=
  (world.store.created, world.store.targets kind)

namespace Audience

variable {audience : Audience} {limit : Option Int}
  {visit : β → TargetRecord → Steady σ α (Visit β)}

/-- The targets that a walk reads, as a pass sees them. -/
def records (audience : Audience) (id : Int) (store : Store α) : List TargetRecord :=
  (audience.after id store).map fun target => target.record audience.kind audience.today

/-- Walking over two lists is walking over the first and then, if the visitor still wants to, over
the second. -/
theorem walkRecords_append (first rest : List TargetRecord) (found : β) (visited : Nat)
    (world : World σ α) (after : Walked β → World σ α → Prop) :
    Leads (audience.walkRecords limit visit (first ++ rest) found visited) world after ↔
      Leads (audience.walkRecords limit visit first found visited) world fun walked middle =>
        match walked with
        | .more found visited =>
          Leads (audience.walkRecords limit visit rest found visited) middle after
        | ended => after ended middle := by
  induction first generalizing found visited world with
  | nil => exact Iff.rfl
  | cons target others ih =>
    rw [List.cons_append, walkRecords, walkRecords]
    cases audience.predicate.holds target.attributes audience.today with
    | error refusal => exact Iff.rfl
    | ok matched =>
      cases matched with
      | false => exact ih found visited world
      | true =>
        dsimp only
        rw [leads_bind, leads_bind]
        unfold Leads
        cases ((visit found target).run world).1 with
        | stop found => exact Iff.rfl
        | giveUp found failure => exact Iff.rfl
        | next found =>
          dsimp only
          split
          · exact Iff.rfl
          · exact ih found (visited + 1) _

/-! ## Batches -/

section Batches

variable {size : Int} {store : Store α} {id : Int}

theorem after_congr {other : Store α} (same : other.targets audience.kind =
    store.targets audience.kind) : audience.after id other = audience.after id store := by
  simp only [after, same]

/-- The targets after an id, in the order of the table. -/
theorem after_ascending (id : Int)
    (ascending : Ascending ((store.targets audience.kind).map Target.id)) :
    (audience.after id store).Pairwise fun left right => left.id < right.id := by
  have sorted := List.Pairwise.of_cons ascending
  rw [List.pairwise_map] at sorted
  exact sorted.filter _

theorem records_kind : ∀ target ∈ audience.records id store, target.kind = audience.kind := by
  intro target member
  obtain ⟨row, _, rfl⟩ := List.mem_map.mp member
  rfl

/-- No target is read twice. -/
theorem records_nodup (ascending : Ascending ((store.targets audience.kind).map Target.id)) :
    ((audience.records id store).map TargetRecord.id).Nodup := by
  rw [records, List.map_map]
  refine List.pairwise_map.mpr ((after_ascending id ascending).imp ?_)
  intro left right before
  exact Int.ne_of_lt before

/-- Behind the last target of a batch stand those that the batch has left out. -/
theorem after_last (ascending : Ascending ((store.targets audience.kind).map Target.id))
    {batch rest : List Target} {last : Target}
    (split : audience.after id store = batch ++ rest) (ends : batch.getLast? = some last) :
    audience.after last.id store = rest := by
  have sorted := after_ascending id ascending
  have begun : ∀ target ∈ audience.after id store, id < target.id := by
    intro target member
    simp only [after, List.mem_filter, Bool.and_eq_true, decide_eq_true_eq] at member
    exact member.2.2
  have lastMember : last ∈ audience.after id store :=
    split ▸ List.mem_append_left _ (List.mem_of_getLast? ends)
  have narrower : audience.after last.id store =
      (audience.after id store).filter fun target => last.id < target.id := by
    simp only [after, List.filter_filter]
    refine List.filter_congr fun target _ => ?_
    have later := begun last lastMember
    grind
  obtain ⟨front, rfl⟩ := List.getLast?_eq_some_iff.mp ends
  rw [split, List.append_assoc, List.pairwise_append, List.singleton_append,
    List.pairwise_cons] at sorted
  have frontNone : front.filter (fun target => decide (last.id < target.id)) = [] := by
    refine List.filter_eq_nil_iff.mpr fun target member => ?_
    have before := sorted.2.2 target member last (List.mem_cons_self ..)
    simp only [decide_eq_true_eq]
    omega
  have restAll : rest.filter (fun target => decide (last.id < target.id)) = rest :=
    List.filter_eq_self.mpr fun target member => decide_eq_true (sorted.2.1.1 target member)
  simp [narrower, split, List.filter_append, frontNone, restAll]

theorem batch_eq (fits : Cell.fits size = true) :
    audience.batch size id store = .ok (if size < 0 then audience.after id store
      else (audience.after id store).take size.toNat) := by
  simp only [batch, Cell.fitted, fits, ↓reduceIte, bind, Except.bind, pure, Except.pure]

end Batches

variable {size : Int}

/-- Reading in batches comes to the same as reading everything, as far as the result goes. -/
theorem walkAfter_leads_iff (fits : Cell.fits size = true) (nonzero : size ≠ 0)
    (keeps : ∀ found target, Moves (Agree (World.table audience.kind)) (visit found target))
    {after : β × Option Failure → World σ α → Prop} (batches : Nat) (id : Int) (found : β)
    (visited : Nat) (world : World σ α) (created : world.store.created = true)
    (ascending : Ascending ((world.store.targets audience.kind).map Target.id))
    (enough : (audience.after id world.store).length < batches) :
    (Leads (audience.walkAfter size limit visit batches id found visited) world
        fun walked => after walked.result) ↔
      Leads (audience.walkRecords limit visit (audience.records id world.store) found visited) world
        fun walked => after walked.result := by
  induction batches generalizing id found visited world with
  | zero => exact absurd enough (Nat.not_lt_zero _)
  | succ batches ih =>
    obtain ⟨front, rest, split, batch, ended⟩ : ∃ front rest,
        audience.after id world.store = front ++ rest ∧
          audience.batch size id world.store = .ok front ∧
            (front = [] → rest = []) := by
      rw [batch_eq fits]
      by_cases all : size < 0
      · exact ⟨audience.after id world.store, [], by simp, by simp [all], fun _ => rfl⟩
      · refine ⟨_, _, (List.take_append_drop size.toNat _).symm, by simp [all], fun none => ?_⟩
        have positive : 0 < size.toNat := by omega
        rcases List.take_eq_nil_iff.mp none with zero | empty
        · omega
        · rw [empty, List.drop_nil]
    rw [walkAfter, leads_bind, leads_run, ends_consult created, batch]
    dsimp only
    cases last? : front.getLast? with
    | none =>
      rw [List.getLast?_eq_none_iff] at last?
      subst last?
      rw [ended rfl] at split
      rw [records, split]
      exact Iff.rfl
    | some last =>
      have next := after_last ascending split last?
      rw [records, split, List.map_append, walkRecords_append, leads_bind]
      refine Leads.congr ((walkRecords_moves keeps _ _ _).leads world) fun walked middle same => ?_
      cases walked with
      | done found => exact Iff.rfl
      | failed found failure => exact Iff.rfl
      | more found visited =>
        have table : middle.store.targets audience.kind = world.store.targets audience.kind :=
          congrArg Prod.snd same
        have read : audience.after last.id middle.store = rest := (after_congr table).trans next
        rw [← read]
        refine ih last.id found visited middle ((congrArg Prod.fst same).trans created)
          (table ▸ ascending) ?_
        have lengths := congrArg List.length split
        have some : 0 < front.length := List.length_pos_of_mem (List.mem_of_getLast? last?)
        rw [List.length_append] at lengths
        rw [read]
        omega

variable {start : β} {world : World σ α}

theorem records_length_le (store : Store α) :
    (audience.after 0 store).length ≤ (store.targets audience.kind).length :=
  List.length_filter_le _ _

/-- A walk with a usable size of batches is a walk over the records of its table. -/
theorem walk_leads_iff (fits : Cell.fits size = true) (nonzero : size ≠ 0)
    (keeps : ∀ found target, Moves (Agree (World.table audience.kind)) (visit found target))
    (created : world.store.created = true)
    (ascending : Ascending ((world.store.targets audience.kind).map Target.id))
    (some : limit.any (fun most => decide (most ≤ 0)) = false)
    {after : β × Option Failure → World σ α → Prop} :
    Leads (audience.walk size limit visit start) world after ↔
      Leads (audience.walkRecords limit visit (audience.records 0 world.store) start 0) world
        fun walked => after walked.result := by
  rw [walk, some]
  simp only [Bool.false_eq_true, ↓reduceIte]
  rw [leads_bind, leads_get, ← walkAfter_leads_iff fits nonzero keeps
    ((world.store.targets audience.kind).length + 1) 0 start 0 world created ascending
    (Nat.lt_succ_of_le (records_length_le world.store)), leads_bind]
  refine Leads.congr (leads_true _ _) fun walked middle _ => ?_
  cases walked <;> exact Iff.rfl

/-- A walk that reads no targets at a time ends where it starts. -/
theorem walk_blind (created : world.store.created = true) :
    Leads (audience.walk 0 limit visit start) world
      fun result after => result = (start, none) ∧ after = world := by
  rw [walk]
  split
  · exact ⟨rfl, rfl⟩
  · rw [leads_bind, leads_get, leads_bind, walkAfter, leads_bind, leads_run, ends_consult created,
      batch_eq (by decide)]
    exact ⟨rfl, rfl⟩

/-- A size of batches that the database does not take fails the walk before its first visit. -/
theorem walk_unfit (unfit : Cell.fits size = false) (created : world.store.created = true)
    (some : limit.any (fun most => decide (most ≤ 0)) = false) :
    Leads (audience.walk size limit visit start) world
      fun result after => after = world ∧ result.1 = start ∧ result.2.isSome := by
  rw [walk, some]
  simp only [Bool.false_eq_true, ↓reduceIte]
  rw [leads_bind, leads_get, leads_bind, walkAfter, leads_bind, leads_run, ends_consult created]
  simp only [batch, Cell.fitted, unfit, Bool.false_eq_true, ↓reduceIte, bind, Except.bind]
  exact ⟨rfl, rfl, rfl⟩

/-- Whether a target matches. -/
def selects (audience : Audience) (target : TargetRecord) : Bool :=
  match audience.predicate.holds target.attributes audience.today with
  | .ok matched => matched
  | .error _ => false

/-- What holds with the whole table before a walk, and with what is left of it behind each of its
records, holds with some rest of it behind the walk. -/
theorem walk_leads_each {I : List TargetRecord → β → World σ α → Prop}
    (table : ∀ found target, Moves (Agree (World.table audience.kind)) (visit found target))
    (created : world.store.created = true)
    (ascending : Ascending ((world.store.targets audience.kind).map Target.id))
    (skips : ∀ found target rest world, I (target :: rest) found world → I rest found world)
    (keeps : ∀ found target rest world, audience.selects target = true →
      I (target :: rest) found world →
        Leads (visit found target) world fun visited after => I rest visited.found after)
    (begun : I (audience.records 0 world.store) start world) :
    Leads (audience.walk size limit visit start) world
      fun result after => ∃ rest, I rest result.1 after := by
  have listed : ∀ (targets : List TargetRecord) found visited (world : World σ α),
      I targets found world →
        Leads (audience.walkRecords limit visit targets found visited) world
          fun walked after => ∃ rest, I rest walked.found after := by
    intro targets
    induction targets with
    | nil => exact fun found visited world holds => ⟨[], holds⟩
    | cons target rest ih =>
      intro found visited world holds
      rw [walkRecords]
      cases decided : audience.predicate.holds target.attributes audience.today with
      | error refusal => exact ⟨_, holds⟩
      | ok matched =>
        have selects : audience.selects target = matched := by rw [Audience.selects, decided]
        cases matched with
        | false => exact ih found visited world (skips found target rest world holds)
        | true =>
          dsimp only
          rw [leads_bind]
          refine (keeps found target rest world selects holds).mono ?_
          intro visit after kept
          cases visit with
          | next found =>
            dsimp only
            split
            · exact ⟨rest, kept⟩
            · exact ih found (visited + 1) after kept
          | stop found => exact ⟨rest, kept⟩
          | giveUp found failure => exact ⟨rest, kept⟩
  cases some : limit.any fun most => decide (most ≤ 0) with
  | true =>
    rw [walk, some]
    exact ⟨_, begun⟩
  | false =>
    cases fits : Cell.fits size with
    | false =>
      refine (walk_unfit fits created some).mono ?_
      rintro result after ⟨rfl, same, _⟩
      exact ⟨_, same ▸ begun⟩
    | true =>
      by_cases zero : size = 0
      · subst zero
        refine (walk_blind created).mono ?_
        rintro _ _ ⟨rfl, rfl⟩
        exact ⟨_, begun⟩
      · rw [walk_leads_iff fits zero table created ascending some]
        refine (listed _ start 0 world begun).mono ?_
        intro walked after holds
        cases walked <;> exact holds

/-! ## The matching targets -/

/-- The matching targets of a store, in the order of their table. -/
def selected (audience : Audience) (store : Store α) : List TargetRecord :=
  (audience.records 0 store).filter audience.selects

theorem selected_nodup {store : Store α}
    (ascending : Ascending ((store.targets audience.kind).map Target.id)) :
    ((audience.selected store).map TargetRecord.id).Nodup :=
  (records_nodup ascending).sublist (List.filter_sublist.map _)

/-- A limit that does not cut off a number of targets. -/
def Admits (limit : Option Int) (count : Nat) : Prop := ∀ most ∈ limit, (count : Int) ≤ most

section Selected

variable {I : List TargetRecord → β → World σ α → Prop} {S : β → World σ α → Prop}

/-- A walk over some of the matching targets goes over all of them, one after the other, unless it
is stopped or fails. -/
theorem walkRecords_selected {all : List TargetRecord} (admits : Admits limit all.length)
    (keeps : ∀ done target found world, done ++ [target] <+: all → I done found world →
      Leads (visit found target) world fun visited after =>
        match visited with
        | .next found => I (done ++ [target]) found after
        | .stop found => S found after
        | .giveUp _ _ => True)
    (targets : List TargetRecord) (done : List TargetRecord)
    (split : all = done ++ targets.filter audience.selects) (found : β) (world : World σ α)
    (holds : I done found world) :
    Leads (audience.walkRecords limit visit targets found done.length) world
      fun walked after =>
        match walked.result with
        | (found, none) => I all found after ∨ S found after
        | (_, some _) => True := by
  induction targets generalizing done found world with
  | nil =>
    rw [List.filter_nil, List.append_nil] at split
    exact .inl (split ▸ holds)
  | cons target rest ih =>
    rw [walkRecords]
    cases decided : audience.predicate.holds target.attributes audience.today with
    | error refusal => exact trivial
    | ok matched =>
      have selects : audience.selects target = matched := by rw [Audience.selects, decided]
      cases matched with
      | false =>
        rw [List.filter_cons_of_neg (by rw [selects]; exact Bool.false_ne_true)] at split
        exact ih done split found world holds
      | true =>
        rw [List.filter_cons_of_pos selects] at split
        have further : done ++ [target] <+: all :=
          ⟨rest.filter audience.selects, by rw [split, List.append_assoc, List.singleton_append]⟩
        dsimp only
        rw [leads_bind]
        refine (keeps done target found world further holds).mono ?_
        intro visit after kept
        cases visit with
        | stop found => exact .inr kept
        | giveUp found failure => exact trivial
        | next found =>
          dsimp only at kept ⊢
          split
          · -- The limit is reached: then no matching target is left.
            rename_i reached
            obtain ⟨most, limited, reached⟩ := (Option.any_eq_true _ _).mp reached
            have covers := admits most limited
            have short : all.length ≤ (done ++ [target]).length := by
              simp only [decide_eq_true_eq] at reached
              simp only [List.length_append, List.length_singleton]
              omega
            rw [further.eq_of_length_le short] at kept
            exact .inl kept
          · have next := ih (done ++ [target])
              (by rw [split, List.append_assoc, List.singleton_append]) found after kept
            rwa [List.length_append, List.length_singleton] at next

/-- A walk whose limit cuts off nothing visits all matching targets, unless it is stopped or
fails. -/
theorem walk_leads_selected (nonzero : size ≠ 0)
    (table : ∀ found target, Moves (Agree (World.table audience.kind)) (visit found target))
    (created : world.store.created = true)
    (ascending : Ascending ((world.store.targets audience.kind).map Target.id))
    (admits : Admits limit (audience.selected world.store).length)
    (keeps : ∀ done target found middle, done ++ [target] <+: audience.selected world.store →
      I done found middle → Leads (visit found target) middle fun visited after =>
        match visited with
        | .next found => I (done ++ [target]) found after
        | .stop found => S found after
        | .giveUp _ _ => True)
    (begun : I [] start world) :
    Leads (audience.walk size limit visit start) world fun result after =>
      match result with
      | (found, none) => I (audience.selected world.store) found after ∨ S found after
      | (_, some _) => True := by
  cases some : limit.any fun most => decide (most ≤ 0) with
  | true =>
    obtain ⟨most, limited, none⟩ := (Option.any_eq_true _ _).mp some
    have covers := admits most limited
    have empty : audience.selected world.store = [] := by
      simp only [decide_eq_true_eq] at none
      exact List.eq_nil_of_length_eq_zero (by omega)
    rw [walk, some, empty]
    exact .inl begun
  | false =>
    cases fits : Cell.fits size with
    | false =>
      refine (walk_unfit fits created some).mono ?_
      rintro ⟨found, failure⟩ after ⟨_, _, failed⟩
      obtain ⟨failure, rfl⟩ := Option.isSome_iff_exists.mp failed
      exact trivial
    | true =>
      rw [walk_leads_iff fits nonzero table created ascending some]
      exact walkRecords_selected admits keeps _ [] rfl start world begun

/-- Counting the matching targets finds their number, unless it fails. -/
theorem count_ends (nonzero : size ≠ 0) (created : world.store.created = true)
    (ascending : Ascending ((world.store.targets audience.kind).map Target.id)) :
    Ends (audience.count size) world fun result _ =>
      ∀ count, result = .ok count → count = (audience.selected world.store).length := by
  rw [count, fold, ends_bind, ends_lift]
  refine (walk_leads_selected (I := fun done count (_ : World σ α) => count = done.length)
    (S := fun _ _ => False) nonzero (fun _ _ => moves_pure) created ascending
    (fun _ none => by cases none) ?_ rfl).mono ?_
  · intro done target found middle _ kept
    rw [leads_pure, List.length_append, List.length_singleton, kept]
  · rintro ⟨found, failure | failure⟩ after counts
    · intro count same
      cases same
      exact counts.resolve_right not_false
    · exact fun _ same => by cases same

end Selected

end Audience

end Herald
