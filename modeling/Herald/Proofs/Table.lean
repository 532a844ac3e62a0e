import Herald.Proofs.Action
import Herald.Target.Upsert

/-! # The order of tables

Rows stand in the order of their ids, because a new row gets the id after the largest one and no
write changes the id of a target. A walk over a table by id relies on that order.
-/

namespace Herald

variable {α κ ρ : Type}

/-- Ids that are above zero and grow from row to row. -/
def Ascending (ids : List Int) : Prop := (0 :: ids).Pairwise (· < ·)

theorem ascending_nil : Ascending [] := List.pairwise_singleton _ _

theorem le_foldl_max (ids : List Int) (start : Int) :
    start ≤ ids.foldl max start ∧ ∀ id ∈ ids, id ≤ ids.foldl max start := by
  induction ids generalizing start with
  | nil => exact ⟨Int.le_refl start, by simp⟩
  | cons id rest ih =>
    obtain ⟨first, others⟩ := ih (max start id)
    refine ⟨Int.le_trans (Int.le_max_left start id) first, ?_⟩
    intro other member
    rcases List.mem_cons.mp member with rfl | member
    · exact Int.le_trans (Int.le_max_right start other) first
    · exact others other member

/-- The id of a new row is above those of the others. -/
theorem lt_nextId {ids : List Int} {id : Int} (member : id ∈ ids) : id < nextId ids := by
  cases ids with
  | nil => cases member
  | cons first rest =>
    have bounds := le_foldl_max rest first
    rw [nextId, Int.lt_add_one_iff]
    rcases List.mem_cons.mp member with rfl | member
    · exact bounds.1
    · exact bounds.2 id member

theorem Ascending.snoc {ids : List Int} (ascending : Ascending ids) :
    Ascending (ids ++ [nextId ids]) := by
  rw [Ascending, ← List.cons_append, List.pairwise_append]
  refine ⟨ascending, List.pairwise_singleton _ _, ?_⟩
  intro id member other single
  rw [List.mem_singleton.mp single]
  rcases List.mem_cons.mp member with rfl | member
  · cases ids with
    | nil => exact Int.one_pos
    | cons first rest =>
      have positive := List.rel_of_pairwise_cons ascending (List.mem_cons_self ..)
      exact Int.lt_trans positive (lt_nextId (List.mem_cons_self ..))
  · exact lt_nextId member

/-- A row is found under its key if no other row has it. -/
theorem find?_of_nodup [BEq κ] [LawfulBEq κ] {key : ρ → κ} {rows : List ρ}
    (unique : (rows.map key).Nodup) {row : ρ} (member : row ∈ rows) :
    rows.find? (fun other => key other == key row) = some row := by
  induction rows with
  | nil => cases member
  | cons first rest ih =>
    rw [List.map_cons, List.nodup_cons] at unique
    rcases List.mem_cons.mp member with rfl | member
    · exact List.find?_cons_of_pos BEq.rfl
    · have different : key first ≠ key row := fun same =>
        unique.1 (same ▸ List.mem_map_of_mem member)
      rw [List.find?_cons_of_neg (by simpa using different)]
      exact ih unique.2 member

namespace Column

/-- A column that is not seen in a view of the rows. -/
def Keeps (view : ρ → κ) (column : Column ρ) : Prop :=
  ∀ value change row, column.write value = .ok change → view (change row) = view row

/-- A column writes what it has read. -/
theorem reading_ok {β : Type} {name : String} {read : Value → Except Failure β} {put : ρ → β → ρ}
    {value : Value} {change : ρ → ρ} (wrote : (reading name read put).write value = .ok change) :
    ∃ content, read value = .ok content ∧ change = fun row => put row content := by
  simp only [reading] at wrote
  cases found : read value with
  | error failure => simp [found, Except.map] at wrote
  | ok content =>
    rw [found] at wrote
    cases wrote
    exact ⟨content, rfl, rfl⟩

theorem reading_keeps {β : Type} {view : ρ → κ} {name : String} {read : Value → Except Failure β}
    {put : ρ → β → ρ} (keeps : ∀ row value, view (put row value) = view row) :
    (reading name read put).Keeps view := by
  intro value change row wrote
  obtain ⟨content, -, rfl⟩ := reading_ok wrote
  exact keeps row content

theorem both_ok {first rest : Except Failure (ρ → ρ)} {change : ρ → ρ}
    (ok : both first rest = .ok change) :
    ∃ left right, first = .ok left ∧ rest = .ok right ∧ change = fun row => right (left row) := by
  cases first <;> cases rest <;> cases ok
  exact ⟨_, _, rfl, rfl, rfl⟩

/-- A write of columns that are not seen is not seen. -/
theorem changes_keep {view : ρ → κ} {columns : List (Column ρ)}
    (keeps : ∀ column ∈ columns, column.Keeps view) {fields : Fields} {change : ρ → ρ}
    (wrote : changes columns fields = .ok change) (row : ρ) : view (change row) = view row := by
  induction columns generalizing change row with
  | nil =>
    cases wrote
    rfl
  | cons column rest ih =>
    have others := fun other member => keeps other (List.mem_cons_of_mem _ member)
    rw [changes] at wrote
    split at wrote
    · obtain ⟨left, right, first, second, rfl⟩ := both_ok wrote
      exact (ih others second (left row)).trans
        (keeps column (List.mem_cons_self ..) _ left row first)
    · exact ih others wrote row

end Column

namespace Target

/-- No column of a target is its id or its tenant. -/
theorem columns_keep (kind : TargetKind) :
    ∀ column ∈ columns kind, column.Keeps fun target => (target.id, target.tenant) := by
  intro column member
  cases kind <;>
    simp only [columns, timeColumns, contactColumns, List.mem_append, List.mem_cons,
      List.not_mem_nil, or_false] at member
  · rcases member with ((rfl | rfl) | rfl | rfl | rfl | rfl) | rfl <;>
      exact Column.reading_keeps fun _ _ => rfl
  · rcases member with (((rfl | rfl) | rfl) | rfl | rfl | rfl | rfl) | rfl | rfl | rfl <;>
      exact Column.reading_keeps fun _ _ => rfl

/-- Writing a target keeps the ids of all targets of its kind, or adds the next one. -/
theorem put_ids {schema : AttributeSchema} {now : Moment} {data fields : Fields}
    {externalId : Value} {store after : Store α} {target : Target}
    (wrote : put schema now data externalId fields store = .ok (target, after)) :
    ∃ targets, after = store.withTargets schema.target targets ∧
      (targets.map Target.id = (store.targets schema.target).map Target.id ∨
        targets.map Target.id = (store.targets schema.target).map Target.id ++
          [nextId ((store.targets schema.target).map Target.id)]) := by
  obtain ⟨known, _, wrote⟩ := ok_of_bind wrote
  obtain ⟨taken, _, wrote⟩ := ok_of_bind wrote
  dsimp only at wrote
  split at wrote
  · rename_i old found
    obtain ⟨written, rewrote, wrote⟩ := ok_of_bind wrote
    cases wrote
    have same : target.id = old.id := by
      unfold rewritten at rewrote
      dsimp only at rewrote
      split at rewrote
      · exact congrArg Target.id (Except.ok.inj rewrote).symm
      · obtain ⟨change, changes, done⟩ := ok_of_bind rewrote
        cases done
        exact congrArg Prod.fst (Column.changes_keep (columns_keep _) changes old)
    refine ⟨_, rfl, .inl ?_⟩
    rw [List.map_map]
    refine List.map_congr_left fun row _ => ?_
    simp only [Function.comp_apply]
    split
    · rename_i here
      exact (beq_iff_eq.mp here).symm
    · rfl
  · obtain ⟨written, wroteNew, wrote⟩ := ok_of_bind wrote
    cases wrote
    obtain ⟨change, changes, done⟩ := ok_of_bind wroteNew
    cases done
    refine ⟨_, rfl, .inr ?_⟩
    rw [List.map_append, List.map_singleton]
    exact congrArg (fun id => (store.targets schema.target).map Target.id ++ [id])
      (congrArg Prod.fst (Column.changes_keep (columns_keep _) changes _))

end Target

end Herald
