import Mathlib.Data.List.Induction
import Herald.Proofs.History
import Herald.Proofs.Operands
import Herald.Proofs.Rows
import Herald.Proofs.Templates

/-! # What writing a target does

Writing a target either changes nothing, or changes the one row that has its external id, or adds a
row. `Effect` lists these ways with all that they do, and `Call.effect` shows that a write has no
other: the columns of a row are settled by `Writes`, once for rows that are there and once for new
ones. `Call.refuses` and `Call.Proper.succeeds` say when a write fails for its data and fields, and
when it does not fail.
-/

namespace Herald

/-! ## Data that a schema permits -/

namespace AttributeSchema

variable {schema : AttributeSchema} {data : Fields}

/-- A data map fits a schema: each key is declared and no built-in one, each value that is not null
has the declared kind, and no required attribute is left out. -/
structure Permits (schema : AttributeSchema) (data : Fields) : Prop where
  declared : ∀ entry ∈ data, ∃ spec, schema.get? entry.1 = some spec ∧ spec.builtin = false ∧
    (entry.2 = .null ∨ spec.problem? entry.2 = none)
  complete : ∀ spec ∈ schema.specs, spec.required = true → spec.builtin = false →
    data.getOrNull spec.key ≠ .null

theorem entryProblem?_eq_none_iff : schema.entryProblem? data = none ↔
    ∀ entry ∈ data, ∃ spec, schema.get? entry.1 = some spec ∧ spec.builtin = false ∧
      (entry.2 = .null ∨ spec.problem? entry.2 = none) := by
  induction data with
  | nil => simp [entryProblem?]
  | cons entry rest ih =>
    obtain ⟨key, value⟩ := entry
    rw [List.forall_mem_cons, ← ih, entryProblem?]
    cases found : schema.get? key with
    | none => simp
    | some spec =>
      dsimp only
      by_cases builtin : spec.builtin = true
      · simp [builtin]
      · by_cases null : value.isNull = true
        · simp [builtin, Operand.isNull_iff.mp null ▸ null, Operand.isNull_iff.mp null]
        · have there : value ≠ .null := mt Operand.isNull_iff.mpr null
          cases problem : spec.problem? value <;> simp [builtin, null, there, problem]

theorem missing?_eq_none_iff : schema.missing? data = none ↔
    ∀ spec ∈ schema.specs, spec.required = true → spec.builtin = false →
      data.getOrNull spec.key ≠ .null := by
  rw [missing?, List.find?_eq_none]
  refine forall₂_congr fun spec _ => ?_
  rw [ne_eq, ← Operand.isNull_iff]
  cases spec.required <;> cases spec.builtin <;> simp

/-- What may be written is what the schema permits. -/
theorem violation?_eq_none_iff : schema.violation? data = none ↔ schema.Permits data := by
  have both : schema.Permits data ↔ schema.entryProblem? data = none ∧
      schema.missing? data = none := by
    rw [entryProblem?_eq_none_iff, missing?_eq_none_iff]
    exact ⟨fun permits => ⟨permits.declared, permits.complete⟩, fun ⟨left, right⟩ => ⟨left, right⟩⟩
  rw [both, violation?]
  cases schema.entryProblem? data <;> cases schema.missing? data <;> simp

end AttributeSchema

namespace Target

variable {σ α : Type}

/-! ## Calls -/

/-- A write of a target at the time at which it is made; no field is named twice. -/
structure Call where
  now : Moment
  schema : AttributeSchema
  data : Fields
  externalId : Value
  fields : Fields
  distinct : fields.names.Nodup

namespace Call

/-- Write the target. -/
def run (call : Call) : Run σ α Target :=
  upsert call.schema call.data call.externalId call.fields

/-- The world in which a call is made. -/
def start (call : Call) (world : World σ α) : World σ α := { world with now := call.now }

/-- The table that a call writes to. -/
def table (call : Call) (world : World σ α) : List Target :=
  world.store.targets call.schema.target

/-- What a call tells when it is made in a world. -/
def answer (call : Call) (world : World σ α) : Except Failure Target :=
  (call.run.run (call.start world)).1

/-- The world that a call leaves behind. -/
def after (call : Call) (world : World σ α) : World σ α :=
  call.run.worldAfter (call.start world)

/-- A world with another table of the targets that a call writes. -/
def withTable (call : Call) (world : World σ α) (rows : List Target) : World σ α :=
  { world with store := world.store.withTargets call.schema.target rows }

/-- No field has a name with a place of its own in a write. -/
def Untaken (call : Call) : Prop := ∀ name ∈ call.fields.names, name ∉ takenNames

/-- A name that is neither a column of the targets of a kind nor another part of a row. -/
def IsForeign (kind : TargetKind) (name : String) : Prop :=
  Column.isAmong (columns kind) name = false ∧ RowPart.ofNameUnique? name = none

/-- The schema permits the data of a call, and there is a place for each of its fields. -/
structure Fits (call : Call) : Prop where
  permits : call.schema.Permits call.data
  placed : ∀ name ∈ call.fields.names, ¬ IsForeign call.schema.target name

/-- The fields of a call, its data among them. -/
def given (call : Call) : Fields := call.fields ++ [("data", .record call.data)]

/-- Everything that a call gives is in a row already. -/
def Repeats (call : Call) (old : Target) : Prop :=
  ∀ column ∈ columns call.schema.target, ∀ value, (column.name, value) ∈ call.given →
    value.same (old.held column.name) = true

/-- What a call makes of a row that is there. Data and fields that are the same as what the row
holds are not written, and if nothing is, the row stays as it is. -/
structure Changes (call : Call) (old row : Target) : Prop where
  owner : (row.id, row.tenant) = (old.id, old.tenant)
  external : row.externalId = old.externalId
  data : row.data =
    if (Value.record call.data).same (.record old.data) then old.data else call.data
  taken : ∀ column ∈ columns call.schema.target, ∀ value, (column.name, value) ∈ call.given →
    value.same (old.held column.name) = false → Takes column value (row.held column.name)
  kept : ∀ name, name ≠ "updated_at" →
    (∀ value, (name, value) ∈ call.given → value.same (old.held name) = true) →
      row.held name = old.held name
  idle : call.Repeats old → row = old
  stamped : ¬ call.Repeats old →
    (∀ value, ("updated_at", value) ∈ call.given → value.same (old.held "updated_at") = true) →
      row.updatedAt = call.now

/-- A time that is left empty, which a new row does not take. -/
def IsEmptyTime (name : String) (value : Value) : Prop :=
  name ∈ ["created_at", "updated_at"] ∧ value = .null

/-- What a call makes of a new row. -/
structure Makes (call : Call) (id : Int) (row : Target) : Prop where
  owner : (row.id, row.tenant) = (id, call.schema.tenant)
  external : Column.text call.externalId = .ok row.externalId
  data : row.data = call.data
  taken : ∀ column ∈ columns call.schema.target, ∀ value, (column.name, value) ∈ call.given →
    ¬ IsEmptyTime column.name value → Takes column value (row.held column.name)
  kept : ∀ name, (∀ value, (name, value) ∈ call.given → IsEmptyTime name value) →
    row.held name = (new id call.schema.tenant call.now).held name

/-- A row has the external id of a call. Without an external id a call knows no row. -/
def Knows (call : Call) (row : Target) : Prop :=
  ∃ name, Column.text call.externalId = .ok (some name) ∧ row.tenant = call.schema.tenant ∧
    row.externalId = some name

/-- All that a call can do to a world: it fails and leaves it as it is, or it fits and changes the
row that it knows, or it fits, knows no row and adds one. -/
inductive Effect (call : Call) (before : World σ α) : Except Failure Target → World σ α → Prop
  | fails (failure : Failure) : Effect call before (.error failure) before
  | changes {front back : List Target} {old row : Target}
      (fits : call.Fits)
      (known : call.Knows old)
      (there : call.table before = front ++ old :: back)
      (changes : call.Changes old row) :
      Effect call before (.ok row) (call.withTable before (front ++ row :: back))
  | adds {row : Target}
      (fits : call.Fits)
      (unknown : ∀ other ∈ call.table before, ¬ call.Knows other)
      (makes : call.Makes (nextId ((call.table before).map Target.id)) row) :
      Effect call before (.ok row) (call.withTable before (call.table before ++ [row]))

/-! ## What a call gives -/

theorem names_given (call : Call) : call.given.names = call.fields.names ++ ["data"] :=
  List.map_append

theorem data_mem_given (call : Call) : ("data", .record call.data) ∈ call.given :=
  List.mem_append_right _ (List.mem_singleton_self _)

section Given

variable {call : Call} (untaken : call.Untaken)

include untaken

theorem given_eq : call.fields.put "data" (.record call.data) = call.given :=
  Fields.put_of_not_mem fun named => untaken _ named (by decide)

theorem nodup_given : call.given.names.Nodup := by
  rw [names_given]
  refine List.nodup_append.mpr ⟨call.distinct, List.nodup_singleton _, ?_⟩
  rintro name named other single rfl
  obtain rfl := List.mem_singleton.mp single
  exact untaken _ named (by decide)

theorem data_of_given {value : Value} (member : ("data", value) ∈ call.given) :
    value = .record call.data := by
  have found := (Fields.get?_eq_some_iff (nodup_given untaken)).mpr member
  have also := (Fields.get?_eq_some_iff (nodup_given untaken)).mpr call.data_mem_given
  exact Option.some.inj (found.symm.trans also)

theorem external_not_given : "external_id" ∉ call.given.names := by
  rw [names_given, List.mem_append]
  rintro (named | other)
  · exact untaken _ named (by decide)
  · exact absurd other (by decide)

end Given

/-! ## Rows that are there -/

theorem isAmong_columns {kind : TargetKind} {column : Column Target}
    (member : column ∈ columns kind) : Column.isAmong (columns kind) column.name = true :=
  List.any_eq_true.mpr ⟨column, member, beq_self_eq_true _⟩

/-- The fields of a call that are not in a row already. -/
def altered (call : Call) (old : Target) : Fields :=
  call.given.filter fun (name, value) =>
    Column.isAmong (columns call.schema.target) name && !value.same (old.held name)

theorem mem_altered {call : Call} {old : Target} {name : String} {value : Value} :
    (name, value) ∈ call.altered old ↔ (name, value) ∈ call.given ∧
      Column.isAmong (columns call.schema.target) name = true ∧
        value.same (old.held name) = false := by
  simp [altered, List.mem_filter]

theorem repeats_iff {call : Call} {old : Target} :
    call.Repeats old ↔ call.altered old = [] := by
  rw [List.eq_nil_iff_forall_not_mem]
  constructor
  · rintro repeats ⟨name, value⟩ member
    obtain ⟨given, among, differs⟩ := mem_altered.mp member
    obtain ⟨column, there, same⟩ := List.any_eq_true.mp among
    obtain rfl := eq_of_beq same
    rw [repeats column there value given] at differs
    cases differs
  · intro none column member value given
    rw [← Bool.not_eq_false]
    exact fun differs => none _ (mem_altered.mpr ⟨given, isAmong_columns member, differs⟩)

/-- The time of a write is held as it is. -/
theorem updatedAt_of_writes {kind : TargetKind} {fields : Fields} {old row : Target}
    {instant : Moment} (writes : Writes kind fields old row)
    (given : fields.get? "updated_at" = some (.moment instant)) : row.updatedAt = instant := by
  have member : (.instantNamed "updated_at" fun target updatedAt => { target with updatedAt }) ∈
      columns kind := by
    cases kind <;> simp [columns, timeColumns]
  have suits : Suits "updated_at" (.moment instant) := List.mem_of_getElem? (i := 1) rfl
  have takes := writes.taken _ member _ given
  exact Value.moment.inj (takes.unique (takes_of_suits member suits))

/-- The data of a row from what it holds under the name. -/
theorem data_of_held {row : Target} {data : Fields}
    (held : row.held "data" = .record data) : row.data = data := by
  cases held
  rfl

/-- The fields that are written if there are any: the time of the write comes along, unless a field
gives another one. -/
def written (call : Call) (old : Target) : Fields :=
  (Fields.put [] "updated_at" (.moment call.now)).putAll (call.altered old)

section Written

variable {call : Call} {old row : Target} {name : String} {value : Value}
  (untaken : call.Untaken)

theorem get?_altered_of_same
    (same : ∀ value, (name, value) ∈ call.given → value.same (old.held name) = true) :
    (call.altered old).get? name = none := by
  refine Fields.get?_eq_none_iff.mpr fun named => ?_
  obtain ⟨⟨_, value⟩, member, rfl⟩ := List.mem_map.mp named
  obtain ⟨given, -, differs⟩ := mem_altered.mp member
  rw [same value given] at differs
  cases differs

include untaken

theorem get?_written (name : String) : (call.written old).get? name =
    ((call.altered old).get? name).or (Fields.get? [("updated_at", .moment call.now)] name) :=
  Fields.get?_putAll (Fields.nodup_names_filter (nodup_given untaken) _)

theorem get?_written_of_mem (member : (name, value) ∈ call.altered old) :
    (call.written old).get? name = some value := by
  have distinct : (call.altered old).names.Nodup :=
    Fields.nodup_names_filter (nodup_given untaken) _
  rw [get?_written untaken, (Fields.get?_eq_some_iff distinct).mpr member]
  rfl

theorem get?_written_of_same
    (same : ∀ value, (name, value) ∈ call.given → value.same (old.held name) = true) :
    (call.written old).get? name =
      if "updated_at" == name then some (.moment call.now) else none := by
  rw [get?_written untaken, get?_altered_of_same same, Fields.get?_cons]
  rfl

omit untaken in
/-- What is written of a row that is there: nothing if all is there already. -/
theorem writes_of_rewritten
    (rewrote : rewritten call.schema.target old call.given call.now = .ok row) :
    (call.Repeats old ∧ row = old) ∨
      (¬ call.Repeats old ∧ Writes call.schema.target (call.written old) old row) := by
  unfold rewritten at rewrote
  dsimp only at rewrote
  change (if (call.altered old).isEmpty = true then _ else _) = _ at rewrote
  rw [repeats_iff, ← List.isEmpty_iff]
  split at rewrote
  · rename_i nothing
    cases rewrote
    exact .inl ⟨nothing, rfl⟩
  · rename_i something
    obtain ⟨change, wrote, done⟩ := ok_of_bind rewrote
    cases done
    exact .inr ⟨something, writes_of_changes wrote old⟩

theorem changes_of_rewritten
    (rewrote : rewritten call.schema.target old call.given call.now = .ok row) :
    call.Changes old row := by
  rcases writes_of_rewritten rewrote with ⟨repeats, rfl⟩ | ⟨differs, writes⟩
  · refine ⟨rfl, rfl, ?_, ?_, fun _ _ _ => rfl, fun _ => rfl, fun differs => (differs repeats).elim⟩
    · exact (if_pos (repeats dataColumn (dataColumn_mem _) _ call.data_mem_given)).symm
    · intro column member value given differs
      rw [repeats column member value given] at differs
      cases differs
  · have taken : ∀ column ∈ columns call.schema.target, ∀ value,
        (column.name, value) ∈ call.given → value.same (old.held column.name) = false →
          Takes column value (row.held column.name) := by
      intro column member value given other
      refine writes.taken column member value (get?_written_of_mem untaken ?_)
      exact mem_altered.mpr ⟨given, isAmong_columns member, other⟩
    have kept : ∀ name, name ≠ "updated_at" →
        (∀ value, (name, value) ∈ call.given → value.same (old.held name) = true) →
          row.held name = old.held name := by
      intro name other same
      refine writes.kept name ?_
      rw [get?_written_of_same untaken same, if_neg (by simpa using other.symm)]
    refine ⟨writes.owner, ?_, ?_, taken, kept, fun repeats => (differs repeats).elim, ?_⟩
    · refine writes.unnamed ?_
      rw [get?_written_of_same untaken fun value given => ?_]
      · rfl
      · exact absurd (List.mem_map_of_mem given) (external_not_given untaken)
    · by_cases same : (Value.record call.data).same (.record old.data) = true
      · rw [if_pos same]
        refine data_of_held (kept "data" (by decide) fun value given => ?_)
        rw [data_of_given untaken given]
        exact same
      · rw [if_neg same]
        refine data_of_held (takes_data ?_)
        exact taken dataColumn (dataColumn_mem _) _ call.data_mem_given
          (Bool.not_eq_true _ ▸ same)
    · intro _ same
      have stamp := get?_written_of_same untaken same
      rw [if_pos (by decide)] at stamp
      exact updatedAt_of_writes writes stamp

end Written

/-! ## New rows -/

/-- The fields of a call without the times that are left empty. -/
def filled (call : Call) : Fields :=
  call.given.filter fun (name, value) =>
    !(["created_at", "updated_at"].contains name && value.isNull)

theorem mem_filled {call : Call} {name : String} {value : Value} :
    (name, value) ∈ call.filled ↔ (name, value) ∈ call.given ∧ ¬ IsEmptyTime name value := by
  rw [filled, List.mem_filter]
  refine and_congr_right fun _ => ?_
  dsimp only
  rw [IsEmptyTime, ← Operand.isNull_iff, ← List.contains_iff_mem, ← Bool.and_eq_true,
    Bool.not_eq_true, Bool.not_eq_true']

section Filled

variable {call : Call} {row : Target} {id : Int}
  (untaken : call.Untaken)

include untaken

theorem get?_filled_iff {name : String} {value : Value} : call.filled.get? name = some value ↔
    (name, value) ∈ call.given ∧ ¬ IsEmptyTime name value := by
  rw [← mem_filled]
  exact Fields.get?_eq_some_iff (Fields.nodup_names_filter (nodup_given untaken) _)

theorem makes_of_initial
    (made : initial call.schema.target (new id call.schema.tenant call.now) call.externalId
      call.given = .ok row) : call.Makes id row := by
  obtain ⟨change, wrote, done⟩ := ok_of_bind made
  cases done
  have writes : Writes call.schema.target (call.filled.put "external_id" call.externalId)
      (new id call.schema.tenant call.now) _ := writes_of_changes wrote _
  have taken : ∀ column ∈ columns call.schema.target, ∀ value, (column.name, value) ∈ call.given →
      ¬ IsEmptyTime column.name value → Takes column value
        ((change (new id call.schema.tenant call.now)).held column.name) := by
    intro column member value given filled
    refine writes.taken column member value ?_
    rw [Fields.get?_put, if_neg, (get?_filled_iff untaken).mpr ⟨given, filled⟩]
    intro same
    rw [← eq_of_beq same] at given
    exact external_not_given untaken (List.mem_map_of_mem given)
  refine ⟨writes.owner, ?_, ?_, taken, ?_⟩
  · refine writes.external _ ?_
    rw [Fields.get?_put, if_pos (by decide)]
  · refine data_of_held (takes_data ?_)
    exact taken dataColumn (dataColumn_mem _) _ call.data_mem_given fun empty =>
      absurd empty.2 nofun
  · intro name empty
    by_cases external : name = "external_id"
    · -- The external id is written, but a row does not hold it under its name.
      rw [external]
      rfl
    · refine writes.kept name ?_
      rw [Fields.get?_put, if_neg (by simpa using Ne.symm external),
        Option.eq_none_iff_forall_ne_some]
      intro value found
      obtain ⟨given, filled⟩ := (get?_filled_iff untaken).mp found
      exact filled (empty value given)

end Filled

end Call

/-! ## Tables -/

/-- The external ids in a table, with the tenants that use them. -/
def keys (rows : List Target) : List (String × String) :=
  rows.filterMap fun row => row.externalId.map fun name => (row.tenant, name)

/-- A table is a map: its ids grow from row to row, and no tenant has an external id twice. -/
structure Keyed (rows : List Target) : Prop where
  ascending : Ascending (rows.map Target.id)
  single : (keys rows).Nodup

theorem mem_keys {rows : List Target} {tenant name : String} : (tenant, name) ∈ keys rows ↔
    ∃ row ∈ rows, row.tenant = tenant ∧ row.externalId = some name := by
  simp only [keys, List.mem_filterMap, Option.map_eq_some_iff, Prod.mk.injEq]
  constructor
  · rintro ⟨row, member, other, named, rfl, rfl⟩
    exact ⟨row, member, rfl, named⟩
  · rintro ⟨row, member, rfl, named⟩
    exact ⟨row, member, name, named, rfl, rfl⟩

section Keyed

variable {front back rows : List Target} {old row : Target}

theorem Keyed.nodup_ids (keyed : Keyed rows) : (rows.map Target.id).Nodup :=
  (List.Pairwise.of_cons keyed.ascending).imp Int.ne_of_lt

theorem Keyed.eq_of_id (keyed : Keyed rows) (member : row ∈ rows) (also : old ∈ rows)
    (same : row.id = old.id) : row = old :=
  List.inj_on_of_nodup_map keyed.nodup_ids member also same

/-- A row with the ids of the old one can take its place. -/
theorem Keyed.replace (keyed : Keyed (front ++ old :: back))
    (owner : (row.id, row.tenant) = (old.id, old.tenant))
    (external : row.externalId = old.externalId) : Keyed (front ++ row :: back) := by
  obtain ⟨id, tenant⟩ := Prod.mk.inj owner
  have ids : (front ++ row :: back).map Target.id = (front ++ old :: back).map Target.id := by
    simp [id]
  have same : keys (front ++ row :: back) = keys (front ++ old :: back) := by
    simp [keys, List.filterMap_cons, tenant, external]
  exact ⟨ids ▸ keyed.ascending, same ▸ keyed.single⟩

/-- A row with a new external id, or without any, can be added under the next id. -/
theorem Keyed.append (keyed : Keyed rows) (next : row.id = nextId (rows.map Target.id))
    (unknown : ∀ name, row.externalId = some name → ∀ other ∈ rows, other.tenant = row.tenant →
      other.externalId ≠ some name) : Keyed (rows ++ [row]) := by
  constructor
  · rw [List.map_append, List.map_singleton, next]
    exact keyed.ascending.snoc
  · rw [keys, List.filterMap_append]
    cases external : row.externalId with
    | none =>
      simp only [List.filterMap_cons, external, Option.map_none, List.filterMap_nil,
        List.append_nil]
      exact keyed.single
    | some name =>
      have apart : (row.tenant, name) ∉ keys rows := by
        rw [mem_keys]
        rintro ⟨other, member, tenant, named⟩
        exact unknown name external other member tenant named
      simp only [List.filterMap_cons, external, Option.map_some, List.filterMap_nil]
      rw [← List.concat_eq_append]
      exact keyed.single.concat apart

/-- The row of an id is the only one to be replaced. -/
theorem map_replace (distinct : ((front ++ old :: back).map Target.id).Nodup)
    (same : row.id = old.id) :
    ((front ++ old :: back).map fun other => if other.id == row.id then row else other) =
      front ++ row :: back := by
  rw [List.map_append, List.map_cons, List.nodup_middle, List.nodup_cons,
    List.mem_append] at distinct
  have others : ∀ part : List Target, old.id ∉ part.map Target.id →
      (part.map fun other => if other.id == row.id then row else other) = part := by
    intro part apart
    have kept : ∀ other ∈ part, (if other.id == row.id then row else other) = other := by
      intro other member
      refine if_neg fun equal => apart ?_
      rw [← same, ← eq_of_beq equal]
      exact List.mem_map_of_mem member
    exact (List.map_congr_left kept).trans (List.map_id' _)
  rw [List.map_append, List.map_cons, others front (distinct.1 ∘ .inl),
    others back (distinct.1 ∘ .inr), if_pos (beq_iff_eq.mpr same.symm)]

end Keyed

theorem isKnownAs_iff {tenant name : String} {target : Target} :
    isKnownAs tenant (some name) target = true ↔
      target.tenant = tenant ∧ target.externalId = some name := by
  simp [isKnownAs]

/-! ## What a call can do -/

namespace Call

theorem untaken_iff {call : Call} :
    ¬ call.fields.names.any takenNames.contains = true ↔ call.Untaken := by
  simp [Untaken]

/-- A call fits if both checks let it pass. -/
theorem fits_of_checks {call : Call} (accepted : call.schema.violation? call.data = none)
    (allowed : forbidden? call.schema.target call.fields = none) : call.Fits := by
  refine ⟨AttributeSchema.violation?_eq_none_iff.mp accepted, ?_⟩
  rintro name named ⟨noColumn, noPart⟩
  refine List.find?_eq_none.mp allowed name named ?_
  rw [noColumn, noPart]
  rfl

/-- What a write that succeeds has done. -/
theorem effect_of_put {call : Call} {before : World σ α} {row : Target} {store : Store α}
    (untaken : call.Untaken) (fits : call.Fits) (keyed : Keyed (call.table before))
    (wrote : put call.schema call.now call.data call.externalId call.fields before.store =
      .ok (row, store)) : call.Effect before (.ok row) { before with store } := by
  obtain ⟨known, named, wrote⟩ := ok_of_bind wrote
  obtain ⟨fields, usable, wrote⟩ := ok_of_bind wrote
  obtain rfl : call.fields = fields := by
    unfold Target.usable at usable
    split at usable
    · cases usable
    · exact Except.ok.inj usable
  rw [given_eq untaken] at wrote
  dsimp only at wrote
  split at wrote
  · rename_i old found
    obtain ⟨target, rewrote, wrote⟩ := ok_of_bind wrote
    cases wrote
    have changes := changes_of_rewritten untaken rewrote
    obtain ⟨own, front, back, there, -⟩ := List.find?_eq_some_iff_append.mp found
    cases known with
    | none => cases own
    | some name =>
      have there : call.table before = front ++ old :: back := there
      have distinct := keyed.nodup_ids
      rw [there] at distinct
      have replaced := map_replace distinct (congrArg Prod.fst changes.owner)
      rw [← there] at replaced
      change call.Effect before (.ok row) (call.withTable before ((call.table before).map _))
      rw [replaced]
      exact .changes fits ⟨name, named, isKnownAs_iff.mp own⟩ there changes
  · rename_i unknown
    obtain ⟨target, made, wrote⟩ := ok_of_bind wrote
    cases wrote
    refine .adds fits ?_ (makes_of_initial untaken made)
    rintro other member ⟨name, also, own⟩
    obtain rfl : known = some name := Except.ok.inj (named.symm.trans also)
    exact List.find?_eq_none.mp unknown other member (isKnownAs_iff.mpr own)

/-- A call fails and changes nothing, changes the row of its external id, or adds a row. -/
theorem effect (call : Call) (world : World σ α) (keyed : Keyed (call.table world)) :
    call.Effect (call.start world) (call.answer world) (call.after world) := by
  change Ends call.run (call.start world) (call.Effect (call.start world))
  unfold run upsert
  by_cases taken : call.fields.names.any takenNames.contains = true
  · rw [if_pos taken, ends_bind, ends_throw]
    exact .fails _
  · rw [if_neg taken]
    dsimp only
    split
    · exact .fails _
    · rename_i accepted
      split
      · exact .fails _
      · rename_i allowed
        have fits : call.Fits := fits_of_checks accepted allowed
        have writes : Ends (Run.commit (put call.schema call.now call.data call.externalId
            call.fields)) (call.start world) (call.Effect (call.start world)) := by
          refine ends_commit_of .fails fun row store wrote => ?_
          exact effect_of_put (untaken_iff.mp taken) fits keyed wrote
        rw [ends_bind, ends_clock]
        dsimp only
        split
        · rw [ends_bind, ends_pure?]
          split
          · exact writes
          · exact .fails _
        · exact writes

/-- A call that does not fit is refused for that. -/
theorem refuses (call : Call) (world : World σ α) (untaken : call.Untaken)
    (unfit : ¬ call.Fits) : ∃ violation, call.answer world = .error (.violation violation) := by
  change Ends call.run (call.start world) fun result _ =>
    ∃ violation, result = .error (.violation violation)
  unfold run upsert
  rw [if_neg (untaken_iff.mpr untaken)]
  dsimp only
  split
  · exact ⟨_, rfl⟩
  · rename_i accepted
    split
    · exact ⟨_, rfl⟩
    · rename_i allowed
      exact absurd (fits_of_checks accepted allowed) unfit

/-- A call as callers make them: data that can be written as text, a text or nothing as external id,
and fields with values that their columns keep. -/
structure Proper (call : Call) : Prop where
  storable : (Value.record call.data).isStorable = true
  shallow : (Value.record call.data).isTooDeep = false
  external : call.externalId = .null ∨ ∃ name, call.externalId = .text name
  fields : ∀ field ∈ call.fields, ∃ column ∈ columns call.schema.target,
    column.name = field.1 ∧ Suits column.name field.2

theorem names_of_suits {name : String} {value : Value} (suits : Suits name value) :
    name ∈ ["name", "phone", "email", "status", "customer_id", "expiry_at", "created_at",
      "updated_at"] := by
  cases value <;> simp only [Suits, List.mem_cons] at suits ⊢ <;> grind

theorem untaken_of_suits {name : String} {value : Value} (suits : Suits name value) :
    name ∉ takenNames := by
  have among := names_of_suits suits
  clear suits
  decide +revert

/-- No part of a row but a column has such a name. -/
theorem refusal?_of_suits {name : String} {value : Value} (suits : Suits name value) :
    RowPart.refusal? name value = none := by
  have among := names_of_suits suits
  simp only [List.mem_cons, List.not_mem_nil, or_false] at among
  rcases among with rfl | rfl | rfl | rfl | rfl | rfl | rfl | rfl <;> rfl

section Proper

variable {call : Call} (proper : call.Proper)

include proper

theorem Proper.untaken : call.Untaken := by
  intro name named
  obtain ⟨field, member, rfl⟩ := List.mem_map.mp named
  obtain ⟨column, -, same, suits⟩ := proper.fields field member
  exact untaken_of_suits (same ▸ suits)

theorem Proper.usable_eq : usable call.fields = .ok call.fields := by
  have free : RowPart.firstRefusal? call.fields = none := by
    refine List.findSome?_eq_none_iff.mpr fun field member => ?_
    obtain ⟨column, -, same, suits⟩ := proper.fields field member
    exact refusal?_of_suits (same ▸ suits)
  rw [usable, free]

theorem Proper.forbidden?_eq : forbidden? call.schema.target call.fields = none := by
  refine List.find?_eq_none.mpr fun name named => ?_
  obtain ⟨field, member, rfl⟩ := List.mem_map.mp named
  obtain ⟨column, there, same, -⟩ := proper.fields field member
  rw [← same, isAmong_columns there]
  exact Bool.false_ne_true

theorem Proper.text_external : ∃ known, Column.text call.externalId = .ok known := by
  rcases proper.external with null | ⟨name, named⟩
  · exact ⟨none, null ▸ rfl⟩
  · exact ⟨some name, named ▸ rfl⟩

/-- Every column takes what a proper call gives it. -/
theorem Proper.column_writes {column : Column Target} {value : Value}
    (member : column ∈ columns call.schema.target) (given : (column.name, value) ∈ call.given) :
    ∃ write, column.write value = .ok write := by
  rcases List.mem_append.mp given with named | data
  · obtain ⟨other, -, same, suits⟩ := proper.fields _ named
    obtain ⟨write, wrote, -⟩ := takes_of_suits member (same ▸ suits)
    exact ⟨write, wrote⟩
  · obtain ⟨name, rfl⟩ := Prod.mk.inj (List.mem_singleton.mp data)
    obtain rfl : column = dataColumn := column_unique member (dataColumn_mem _) name
    refine ⟨fun target => { target with data := call.data }, ?_⟩
    simp only [dataColumn, Column.dataNamed, Column.reading, Column.data, proper.storable,
      proper.shallow]
    rfl

theorem Proper.rewritten_ok (old : Target) :
    ∃ row, rewritten call.schema.target old call.given call.now = .ok row := by
  unfold rewritten
  dsimp only
  change ∃ row, (if (call.altered old).isEmpty = true then _ else _) = _
  split
  · exact ⟨old, rfl⟩
  · refine exists_ok_bind (Column.changes_ok fun column member value found => ?_) fun change =>
      ⟨change old, rfl⟩
    change (call.written old).get? column.name = some value at found
    rw [get?_written proper.untaken, Option.or_eq_some_iff] at found
    rcases found with altered | ⟨-, stamp⟩
    · have distinct : (call.altered old).names.Nodup :=
        Fields.nodup_names_filter (nodup_given proper.untaken) _
      have among := (Fields.get?_eq_some_iff distinct).mp altered
      exact proper.column_writes member (mem_altered.mp among).1
    · rw [Fields.get?_cons] at stamp
      split at stamp
      · rename_i name
        cases stamp
        have suits : Suits column.name (.moment call.now) := by
          rw [← eq_of_beq name]
          exact List.mem_of_getElem? (i := 1) rfl
        obtain ⟨write, wrote, -⟩ := takes_of_suits member suits
        exact ⟨write, wrote⟩
      · cases stamp

theorem Proper.initial_ok (id : Int) : ∃ row, initial call.schema.target
    (new id call.schema.tenant call.now) call.externalId call.given = .ok row := by
  refine exists_ok_bind (Column.changes_ok fun column member value found => ?_) fun change =>
    ⟨_, rfl⟩
  change (call.filled.put "external_id" call.externalId).get? column.name = some value at found
  rw [Fields.get?_put] at found
  split at found
  · rename_i name
    cases found
    obtain rfl : column = externalColumn :=
      column_unique member (externalColumn_mem _) (eq_of_beq name).symm
    obtain ⟨known, text⟩ := proper.text_external
    refine ⟨fun target => { target with externalId := known }, ?_⟩
    simp only [externalColumn, Column.textNamed, Column.reading, text]
    rfl
  · exact proper.column_writes member ((get?_filled_iff proper.untaken).mp found).1

/-- A proper call with data that the schema permits succeeds. -/
theorem Proper.succeeds (world : World σ α) (created : world.store.created = true)
    (permits : call.schema.Permits call.data) : ∃ row, call.answer world = .ok row := by
  have writes : ∃ written, put call.schema call.now call.data call.externalId call.fields
      world.store = .ok written := by
    obtain ⟨known, text⟩ := proper.text_external
    refine exists_ok_bind_of text (exists_ok_bind_of proper.usable_eq ?_)
    rw [given_eq proper.untaken]
    dsimp only
    split
    · exact exists_ok_bind (proper.rewritten_ok _) fun row => ⟨_, rfl⟩
    · exact exists_ok_bind (proper.initial_ok _) fun row => ⟨_, rfl⟩
  have commits : Ends (Run.commit (put call.schema call.now call.data call.externalId
      call.fields)) (call.start world) fun result _ => ∃ row, result = .ok row := by
    obtain ⟨⟨row, store⟩, wrote⟩ := writes
    rw [ends_commit (show (call.start world).store.created = true from created),
      show (call.start world).store = world.store from rfl, wrote]
    exact ⟨row, rfl⟩
  change Ends call.run (call.start world) fun result _ => ∃ row, result = .ok row
  unfold run upsert
  rw [if_neg (untaken_iff.mpr proper.untaken),
    AttributeSchema.violation?_eq_none_iff.mpr permits, proper.forbidden?_eq]
  dsimp only
  rw [ends_bind, ends_clock]
  dsimp only
  rw [proper.usable_eq]
  split
  · rw [ends_bind, ends_pure?]
    exact commits
  · exact commits

end Proper

end Call

end Target

end Herald
