import Herald.Attribute.Registry
import Herald.Target.Basic
import Herald.Proofs.Report
import Herald.Proofs.Sums

/-! # Built-in attributes

Whatever a tenant declares, its schema knows the built-in attributes as they are, and whatever data
a target has, its attribute map holds the built-in columns.
-/

namespace Herald

/-! ## Schemas -/

namespace AttributeSchema

variable {specs declared : List AttributeSpec} {spec : AttributeSpec} {key : String}

/-- A declaration is found under its key, and leaves other keys as they are. -/
theorem find?_declare :
    (declare specs spec).find? (fun found => found.key == key) =
      if spec.key == key then some spec else specs.find? fun found => found.key == key := by
  induction specs with
  | nil => rw [declare, List.find?_singleton, List.find?_nil]
  | cons first rest ih =>
    rw [declare]
    split
    · rename_i same
      rw [List.find?_cons, List.find?_cons, eq_of_beq same]
      cases spec.key == key <;> rfl
    · rename_i other
      rw [List.find?_cons, List.find?_cons, ih]
      cases here : first.key == key with
      | true =>
        have differs : (spec.key == key) = false := by
          rw [beq_eq_false_iff_ne]
          rintro rfl
          exact other here
        rw [differs]
        rfl
      | false => rfl

/-- A key that nothing is declared under is found where it was. -/
theorem find?_declareAll (foreign : ∀ spec ∈ declared, spec.key ≠ key) :
    (declareAll specs declared).find? (fun found => found.key == key) =
      specs.find? fun found => found.key == key := by
  induction declared generalizing specs with
  | nil => rfl
  | cons spec rest ih =>
    have differs := foreign spec List.mem_cons_self
    change (declareAll (declare specs spec) rest).find? _ = _
    rw [ih fun other member => foreign other (List.mem_cons_of_mem _ member), find?_declare,
      if_neg (by simpa using differs)]

theorem mem_declare {found : AttributeSpec} (member : found ∈ declare specs spec) :
    found = spec ∨ found ∈ specs := by
  induction specs with
  | nil => exact .inl (List.mem_singleton.mp member)
  | cons first rest ih =>
    rw [declare] at member
    split at member
    · exact (List.mem_cons.mp member).imp_right (List.mem_cons_of_mem _)
    · rcases List.mem_cons.mp member with rfl | member
      · exact .inr List.mem_cons_self
      · exact (ih member).imp_right (List.mem_cons_of_mem _)

theorem mem_declareAll {found : AttributeSpec} (member : found ∈ declareAll specs declared) :
    found ∈ declared ∨ found ∈ specs := by
  induction declared generalizing specs with
  | nil => exact .inr member
  | cons spec rest ih =>
    rcases ih (member : found ∈ declareAll (declare specs spec) rest) with later | earlier
    · exact .inl (List.mem_cons_of_mem _ later)
    · rcases mem_declare earlier with rfl | kept
      · exact .inl List.mem_cons_self
      · exact .inr kept

end AttributeSchema

/-- A stored definition never declares a built-in attribute. -/
theorem Definition.toSpec_builtin {row : Definition} {spec : AttributeSpec}
    (reads : row.toSpec = .ok spec) : spec.builtin = false := by
  unfold toSpec at reads
  dsimp only at reads
  split at reads
  · cases reads
  · split at reads
    · rename_i kind _ found valid
      cases reads
      unfold AttributeSpec.ofForm at valid
      obtain ⟨_, flag, unflagged, builtin, rfl⟩ := Checked.seq_valid valid
      obtain ⟨_, _, bare, -, rfl⟩ := Checked.seq_valid unflagged
      obtain ⟨_, _, untyped, -, rfl⟩ := Checked.seq_valid bare
      obtain ⟨_, _, labelled, -, rfl⟩ := Checked.seq_valid untyped
      obtain ⟨_, _, unlabelled, -, rfl⟩ := Checked.seq_valid labelled
      obtain ⟨_, _, optional, -, rfl⟩ := Checked.seq_valid unlabelled
      obtain ⟨_, _, keyed, -, rfl⟩ := Checked.seq_valid optional
      obtain ⟨_, -, rfl⟩ := Checked.map_valid keyed
      -- The form of a row has no field of that name, so the flag is the default.
      cases builtin
      rfl
    · cases reads

/-- The built-in attributes of a kind have different keys. -/
theorem TargetKind.find?_builtins : ∀ kind : TargetKind, ∀ spec ∈ kind.builtins,
    (kind.builtins.find? fun found => found.key == spec.key) = some spec := by
  rintro (_ | _) <;> decide

/-- The schema that a tenant's definitions declare is one of the kind of targets asked for, and it
knows all built-in attributes of that kind as they are. -/
theorem Registry.builtins_of_schemaOf {tenant target : String} {rows : List Definition}
    {schema : AttributeSchema} (loaded : schemaOf tenant target rows = .ok schema) :
    schema.tenant = tenant ∧ schema.target.name = target ∧
      ∀ spec ∈ schema.target.builtins, schema.get? spec.key = some spec := by
  obtain ⟨specs, read, loaded⟩ := ok_of_bind loaded
  have declared : ∀ spec ∈ specs, spec.builtin = false :=
    ((List.forall₂_and_left _ _).mp ((forall₂_of_mapM read).imp fun _ _ reads =>
      ⟨Definition.toSpec_builtin reads, reads⟩).flip).1
  split at loaded
  · rename_i found valid
    cases loaded
    unfold AttributeSchema.ofSpecs at valid
    split at valid
    · cases valid
    · rename_i kind named
      dsimp only at valid
      split at valid
      · cases valid
      · rename_i clear
        cases valid
        have name : kind.name = target := by
          simpa [TargetKind.ofName?] using List.find?_some named
        refine ⟨rfl, name, fun spec builtin => ?_⟩
        have foreign : ∀ other ∈ AttributeSchema.declareAll [] specs, other.key ≠ spec.key := by
          rintro other member same
          have mine := (AttributeSchema.mem_declareAll member).resolve_right List.not_mem_nil
          have clashes : (kind.hasBuiltin other.key && !other.builtin) = true := by
            rw [declared other mine, same, Bool.not_false, Bool.and_true]
            exact List.any_eq_true.mpr ⟨spec, builtin, beq_self_eq_true _⟩
          exact List.find?_eq_none.mp clear other member clashes
        exact (AttributeSchema.find?_declareAll foreign).trans (kind.find?_builtins spec builtin)
  · cases loaded

/-! ## Attribute maps -/

namespace Fields

variable {fields entries : Fields} {name key : String} {value : Value}

theorem get?_put : (fields.put name value).get? key =
    if name == key then some value else fields.get? key := by
  induction fields with
  | nil =>
    rw [put, get?, List.find?_singleton]
    cases name == key <;> rfl
  | cons field rest ih =>
    rw [put]
    split
    · rename_i same
      rw [get?, get?, List.find?_cons, List.find?_cons, eq_of_beq same]
      cases name == key <;> rfl
    · rename_i other
      rw [get?, List.find?_cons]
      cases here : field.1 == key with
      | true =>
        have differs : (name == key) = false := by
          rw [beq_eq_false_iff_ne]
          rintro rfl
          exact other here
        rw [differs, get?, List.find?_cons, here]
        rfl
      | false =>
        rw [get?, List.find?_cons, here]
        exact ih

theorem get?_putAll_of_not_mem (foreign : key ∉ entries.names) :
    (fields.putAll entries).get? key = fields.get? key := by
  induction entries generalizing fields with
  | nil => rfl
  | cons entry rest ih =>
    obtain ⟨differs, foreign⟩ :=
      List.ne_and_not_mem_of_not_mem_cons (foreign : key ∉ entry.1 :: names rest)
    change ((fields.put entry.1 entry.2).putAll rest).get? key = _
    rw [ih foreign, get?_put, if_neg (by simpa using Ne.symm differs)]

/-- Of entries with different names each gives its name its value, whatever had it before. -/
theorem getOrNull_putAll (distinct : entries.names.Nodup) {entry : String × Value}
    (member : entry ∈ entries) : (fields.putAll entries).getOrNull entry.1 = entry.2 := by
  induction entries generalizing fields with
  | nil => cases member
  | cons first rest ih =>
    obtain ⟨foreign, distinct⟩ := List.nodup_cons.mp distinct
    change ((fields.put first.1 first.2).putAll rest).getOrNull entry.1 = _
    rcases List.mem_cons.mp member with rfl | member
    · rw [getOrNull, get?_putAll_of_not_mem foreign, get?_put, if_pos (beq_self_eq_true _)]
      rfl
    · exact ih distinct member

end Fields

namespace Target

/-- The columns are the built-in attributes. -/
theorem names_builtinFields (kind : TargetKind) (target : Target) (today : Date) :
    (builtinFields kind target today).names = kind.builtins.map AttributeSpec.key := by
  cases kind <;> rfl

/-- An attribute map holds every column, whatever the data. -/
theorem getOrNull_attributes {kind : TargetKind} {target : Target} {today : Date}
    {column : String × Value} (member : column ∈ builtinFields kind target today) :
    (attributes kind target today).getOrNull column.1 = column.2 := by
  have distinct : (kind.builtins.map AttributeSpec.key).Nodup := by cases kind <;> decide
  exact Fields.getOrNull_putAll (names_builtinFields kind target today ▸ distinct) member

end Target

end Herald
