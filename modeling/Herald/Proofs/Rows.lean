import Mathlib.Data.List.Nodup
import Herald.Proofs.Builtins
import Herald.Proofs.Table

/-! # What a write leaves in a row

Every column of a target shows under its own name and nowhere else, whatever was in the row before.
So a row into which fields have been written holds, name by name, what the column of the name makes
of the value, and where no field has the name what it held before. `Writes` says so, and
`writes_of_changes` proves it of every write, once for all columns.
-/

namespace Herald

/-! ## Fields with names of their own -/

namespace Fields

variable {fields entries : Fields} {name key : String} {value : Value}

theorem get?_eq_some_iff (distinct : fields.names.Nodup) :
    fields.get? name = some value ↔ (name, value) ∈ fields := by
  unfold get?
  constructor
  · intro found
    split at found
    · rename_i field there
      cases found
      obtain rfl : field.1 = name := by simpa using List.find?_some there
      exact List.mem_of_find?_eq_some there
    · cases found
  · intro member
    rw [find?_of_nodup distinct member]

theorem put_of_not_mem (foreign : name ∉ fields.names) :
    fields.put name value = fields ++ [(name, value)] := by
  induction fields with
  | nil => rfl
  | cons first rest ih =>
    obtain ⟨differs, foreign⟩ :=
      List.ne_and_not_mem_of_not_mem_cons (foreign : name ∉ first.1 :: names rest)
    rw [put, if_neg (by simpa using differs.symm), ih foreign, List.cons_append]

theorem nodup_names_filter (distinct : fields.names.Nodup) (keep : String × Value → Bool) :
    (Fields.names (fields.filter keep)).Nodup := distinct.sublist (List.filter_sublist.map _)

theorem get?_cons (first : String × Value) (rest : Fields) (name : String) :
    get? (first :: rest) name = if first.1 == name then some first.2 else rest.get? name := by
  rw [get?, List.find?_cons]
  cases first.1 == name <;> rfl

/-- Entries come before what they are put into. -/
theorem get?_putAll (distinct : entries.names.Nodup) :
    (fields.putAll entries).get? key = (entries.get? key).or (fields.get? key) := by
  induction entries generalizing fields with
  | nil => rfl
  | cons first rest ih =>
    obtain ⟨foreign, distinct⟩ := List.nodup_cons.mp distinct
    change ((fields.put first.1 first.2).putAll rest).get? key = _
    rw [get?_cons]
    by_cases here : (first.1 == key) = true
    · obtain rfl := eq_of_beq here
      rw [get?_putAll_of_not_mem foreign, get?_put, if_pos here, if_pos here]
      rfl
    · rw [ih distinct, get?_put, if_neg here, if_neg here]

end Fields

/-! ## Writing several columns -/

namespace Column

variable {κ ρ : Type} {columns : List (Column ρ)} {column : Column ρ} {fields : Fields}
  {change : ρ → ρ} {view : ρ → κ} {value : Value}

/-- A write is not seen if none of the named columns is. -/
theorem changes_keep_unnamed
    (keeps : ∀ column ∈ columns, fields.get? column.name ≠ none → column.Keeps view)
    (wrote : changes columns fields = .ok change) (row : ρ) : view (change row) = view row := by
  induction columns generalizing change row with
  | nil =>
    cases wrote
    rfl
  | cons column rest ih =>
    obtain ⟨first, others⟩ := List.forall_mem_cons.mp keeps
    rw [changes] at wrote
    split at wrote
    · rename_i value found
      obtain ⟨left, right, wroteFirst, wroteRest, rfl⟩ := both_ok wrote
      rw [ih others wroteRest (left row)]
      have named : fields.get? column.name ≠ none := found ▸ Option.some_ne_none value
      exact first named value left row wroteFirst
    · exact ih others wrote row

/-- What is seen of one column only is what that column has made of the value of its name. -/
theorem changes_write (distinct : (columns.map Column.name).Nodup) (member : column ∈ columns)
    (apart : ∀ other ∈ columns, other.name ≠ column.name → other.Keeps view)
    (given : fields.get? column.name = some value)
    (wrote : changes columns fields = .ok change) (row : ρ) :
    ∃ write middle, column.write value = .ok write ∧ view (change row) = view (write middle) := by
  induction columns generalizing change row with
  | nil => cases member
  | cons first rest ih =>
    obtain ⟨foreign, distinct⟩ := List.nodup_cons.mp distinct
    obtain ⟨-, others⟩ := List.forall_mem_cons.mp apart
    rw [changes] at wrote
    rcases List.mem_cons.mp member with rfl | member
    · rw [given] at wrote
      obtain ⟨left, right, wroteFirst, wroteRest, rfl⟩ := both_ok wrote
      refine ⟨left, row, wroteFirst, changes_keep_unnamed ?_ wroteRest (left row)⟩
      intro other among _
      refine others other among fun same => foreign ?_
      exact same ▸ List.mem_map_of_mem among
    · split at wrote
      · obtain ⟨left, right, -, wroteRest, rfl⟩ := both_ok wrote
        exact ih distinct member others wroteRest (left row)
      · exact ih distinct member others wrote row

/-- A write succeeds if every named column takes its value. -/
theorem changes_ok (takes : ∀ column ∈ columns, ∀ value, fields.get? column.name = some value →
    ∃ write, column.write value = .ok write) : ∃ change, changes columns fields = .ok change := by
  induction columns with
  | nil => exact ⟨_, rfl⟩
  | cons column rest ih =>
    obtain ⟨first, others⟩ := List.forall_mem_cons.mp takes
    obtain ⟨right, wroteRest⟩ := ih others
    rw [changes]
    split
    · rename_i value found
      obtain ⟨left, wroteFirst⟩ := first value found
      rw [wroteFirst, wroteRest]
      exact ⟨_, rfl⟩
    · exact ⟨right, wroteRest⟩

end Column

namespace Target

/-! ## The columns of a target -/

/-- A column that shows under its name and nowhere else, whatever was in the row. -/
structure Separate (column : Column Target) : Prop where
  apart : ∀ name, name ≠ column.name → column.Keeps fun target => target.held name
  external : column.name ≠ "external_id" → column.Keeps Target.externalId
  own : ∀ value write, column.write value = .ok write → ∀ target other : Target,
    (write target).held column.name = (write other).held column.name

theorem separate_reading {β : Type} {name : String} {read : Value → Except Failure β}
    {put : Target → β → Target}
    (apart : ∀ other, other ≠ name → ∀ target content,
      (put target content).held other = target.held other)
    (external : name ≠ "external_id" → ∀ target content,
      (put target content).externalId = target.externalId)
    (own : ∀ target other content, (put target content).held name = (put other content).held name) :
    Separate (Column.reading name read put) where
  apart := fun other differs => Column.reading_keeps (apart other differs)
  external := fun differs => Column.reading_keeps (external differs)
  own := by
    intro value write wrote target other
    obtain ⟨content, -, rfl⟩ := Column.reading_ok wrote
    exact own target other content

theorem columns_subset (kind : TargetKind) : columns kind ⊆ columns .service := by
  cases kind with
  | customer =>
    intro column member
    simp only [columns, List.mem_append, List.mem_cons] at member ⊢
    grind
  | service => exact List.Subset.refl _

theorem columns_separate (kind : TargetKind) : ∀ column ∈ columns kind, Separate column := by
  intro column member
  replace member := columns_subset kind member
  simp only [columns, timeColumns, contactColumns, List.mem_append, List.mem_cons,
    List.not_mem_nil, or_false] at member
  rcases member with (((rfl | rfl) | rfl) | rfl | rfl | rfl | rfl) | rfl | rfl | rfl <;>
  · refine separate_reading (fun other differs target content => ?_)
      (fun _ _ _ => by first | rfl | contradiction) (fun _ _ _ => rfl)
    unfold held
    split <;> first | rfl | exact absurd rfl differs

theorem nodup_names_columns (kind : TargetKind) : ((columns kind).map Column.name).Nodup := by
  cases kind <;> decide

theorem dataColumn_mem (kind : TargetKind) : dataColumn ∈ columns kind := by
  cases kind <;> simp [columns]

/-- The column of the external id. -/
def externalColumn : Column Target :=
  .textNamed "external_id" fun target externalId => { target with externalId }

theorem externalColumn_mem (kind : TargetKind) : externalColumn ∈ columns kind := by
  cases kind <;> simp [columns, contactColumns, externalColumn]

theorem externalId_of_write {value : Value} {write : Target → Target}
    (wrote : externalColumn.write value = .ok write) (target : Target) :
    Column.text value = .ok (write target).externalId := by
  obtain ⟨content, read, rfl⟩ := Column.reading_ok wrote
  exact read

/-- A name has one column. -/
theorem column_unique {kind : TargetKind} {column other : Column Target}
    (member : column ∈ columns kind) (also : other ∈ columns kind)
    (same : column.name = other.name) : column = other :=
  List.inj_on_of_nodup_map (nodup_names_columns kind) member also same

/-! ## What a column makes of a value -/

/-- What a row holds under the name of a column into which a value has been written. -/
def Takes (column : Column Target) (value found : Value) : Prop :=
  ∃ write, column.write value = .ok write ∧ ∀ target, (write target).held column.name = found

section Takes

variable {kind : TargetKind} {column : Column Target} {value found other : Value}

theorem Takes.unique (left : Takes column value found) (right : Takes column value other) :
    found = other := by
  obtain ⟨write, wrote, holds⟩ := left
  obtain ⟨again, wroteAgain, holdsAgain⟩ := right
  cases wrote.symm.trans wroteAgain
  exact (holds (new 0 "" ⟨0, by decide⟩)).symm.trans (holdsAgain _)

theorem Separate.takes {write : Target → Target} (separate : Separate column)
    (wrote : column.write value = .ok write) (target : Target) :
    Takes column value ((write target).held column.name) :=
  ⟨write, wrote, fun other => separate.own value write wrote other target⟩

/-- A data map is held as it is given. -/
theorem takes_data {data : Fields} (takes : Takes dataColumn (.record data) found) :
    found = .record data := by
  obtain ⟨write, wrote, holds⟩ := takes
  obtain ⟨content, read, rfl⟩ := Column.reading_ok wrote
  rw [← holds (new 0 "" ⟨0, by decide⟩)]
  unfold Column.data at read
  split at read
  · cases read
    rfl
  · cases read

/-- The values that a column of a name keeps as they are. -/
def Suits (name : String) : Value → Prop
  | .null => name ∈ ["name", "phone", "email", "status", "customer_id", "expiry_at"]
  | .text _ => name ∈ ["name", "phone", "email", "status"]
  | .int number => name = "customer_id" ∧ Cell.fits number = true
  | .moment _ => name ∈ ["created_at", "updated_at", "expiry_at"]
  | _ => False

theorem takes_cell {number : Int} (fits : Cell.fits number = true) :
    Takes (.cellNamed "customer_id" fun target customer => { target with customer })
      (.int number) (.int number) := by
  refine ⟨fun target => { target with customer := some (.int number) }, ?_, fun _ => rfl⟩
  simp only [Column.cellNamed, Column.reading, Column.cell, Cell.fitted, if_pos fits]
  rfl

theorem takes_of_suits (member : column ∈ columns kind) (suits : Suits column.name value) :
    Takes column value value := by
  replace member := columns_subset kind member
  simp only [columns, timeColumns, contactColumns, List.mem_append, List.mem_cons,
    List.not_mem_nil, or_false] at member
  rcases member with (((rfl | rfl) | rfl) | rfl | rfl | rfl | rfl) | rfl | rfl | rfl <;>
    cases value <;> first
      | exact ⟨_, rfl, fun _ => rfl⟩
      | exact takes_cell suits.2
      | simp [Suits, Column.textNamed, Column.momentNamed, Column.instantNamed, Column.cellNamed,
          Column.dataNamed, Column.reading, dataColumn] at suits

end Takes

/-! ## Rows after a write -/

/-- A row is what another one has become by writing fields. -/
structure Writes (kind : TargetKind) (fields : Fields) (old row : Target) : Prop where
  owner : (row.id, row.tenant) = (old.id, old.tenant)
  taken : ∀ column ∈ columns kind, ∀ value, fields.get? column.name = some value →
    Takes column value (row.held column.name)
  kept : ∀ name, fields.get? name = none → row.held name = old.held name
  external : ∀ value, fields.get? "external_id" = some value →
    Column.text value = .ok row.externalId
  unnamed : fields.get? "external_id" = none → row.externalId = old.externalId

theorem writes_of_changes {kind : TargetKind} {fields : Fields} {change : Target → Target}
    (wrote : Column.changes (columns kind) fields = .ok change) (old : Target) :
    Writes kind fields old (change old) where
  owner := Column.changes_keep (columns_keep kind) wrote old
  taken := by
    intro column member value given
    have apart : ∀ other ∈ columns kind, other.name ≠ column.name →
        other.Keeps fun target => target.held column.name := fun other among differs =>
      (columns_separate kind other among).apart column.name differs.symm
    obtain ⟨write, middle, wroteOne, same⟩ :=
      Column.changes_write (nodup_names_columns kind) member apart given wrote old
    rw [same]
    exact (columns_separate kind column member).takes wroteOne middle
  kept := by
    intro name absent
    have keeps : ∀ column ∈ columns kind, fields.get? column.name ≠ none →
        column.Keeps fun target => target.held name := by
      intro column member named
      refine (columns_separate kind column member).apart name ?_
      rintro rfl
      exact named absent
    exact Column.changes_keep_unnamed keeps wrote old
  external := by
    intro value given
    have apart : ∀ other ∈ columns kind, other.name ≠ externalColumn.name →
        other.Keeps Target.externalId := fun other among differs =>
      (columns_separate kind other among).external differs
    obtain ⟨write, middle, wroteOne, same⟩ := Column.changes_write (nodup_names_columns kind)
      (externalColumn_mem kind) apart given wrote old
    rw [same]
    exact externalId_of_write wroteOne middle
  unnamed := by
    intro absent
    have keeps : ∀ column ∈ columns kind, fields.get? column.name ≠ none →
        column.Keeps Target.externalId := by
      intro column member named
      refine (columns_separate kind column member).external fun name => ?_
      exact named (name ▸ absent)
    exact Column.changes_keep_unnamed keeps wrote old

end Target

end Herald
