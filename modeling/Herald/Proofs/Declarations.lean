import Mathlib.Data.List.Forall2
import Mathlib.Data.List.Induction
import Mathlib.Data.List.Nodup
import Herald.Proofs.Builtins
import Herald.Proofs.History

/-! # What the registry returns

Attributes are declared one by one, new ones and old ones alike, and a schema lists each of them
once: where it was declared first, as it was declared last. `Holds` says that the rows of a tenant's
targets are such a list of what was declared for them. One definition keeps it, by `Call.ends`,
which says all that a definition can do, and a row that was written from a declaration reads back
as that declaration. So what is loaded is what was declared.
-/

namespace Herald

/-! ## Declaring again -/

namespace AttributeSchema

variable {specs declared : List AttributeSpec} {spec : AttributeSpec} {key : String}

theorem declareAll_snoc :
    declareAll specs (declared ++ [spec]) = declare (declareAll specs declared) spec :=
  List.foldl_append

/-- Each key has what was declared under it last. -/
theorem find?_declareAll_nil (declared : List AttributeSpec) (key : String) :
    (declareAll [] declared).find? (fun found => found.key == key) =
      declared.reverse.find? fun found => found.key == key := by
  induction declared using List.reverseRecOn with
  | nil => rfl
  | append_singleton declared spec ih =>
    rw [declareAll_snoc, find?_declare, ih, List.reverse_append, List.reverse_singleton,
      List.singleton_append, List.find?_cons]
    cases spec.key == key <;> rfl

theorem keys_declare : (declare specs spec).map AttributeSpec.key =
    if spec.key ∈ specs.map AttributeSpec.key then specs.map AttributeSpec.key
    else specs.map AttributeSpec.key ++ [spec.key] := by
  induction specs with
  | nil => rfl
  | cons first rest ih =>
    rw [declare]
    by_cases same : first.key = spec.key
    · simp [same]
    · rw [if_neg (by simpa using same), List.map_cons, ih, List.map_cons]
      by_cases known : spec.key ∈ rest.map AttributeSpec.key
      · rw [if_pos known, if_pos (List.mem_cons_of_mem _ known)]
      · rw [if_neg known, if_neg (List.not_mem_cons_of_ne_of_not_mem (Ne.symm same) known)]
        rfl

theorem eraseDups_snoc (keys : List String) (key : String) : (keys ++ [key]).eraseDups =
    if key ∈ keys then keys.eraseDups else keys.eraseDups ++ [key] := by
  rw [List.eraseDups_append, List.removeAll, List.filter_singleton]
  by_cases known : key ∈ keys
  · simp [known]
  · simp [known, List.eraseDups_cons]

/-- The keys stand in the order of their first declarations. -/
theorem keys_declareAll_nil (declared : List AttributeSpec) :
    (declareAll [] declared).map AttributeSpec.key =
      (declared.map AttributeSpec.key).eraseDups := by
  induction declared using List.reverseRecOn with
  | nil => rfl
  | append_singleton declared spec ih =>
    rw [declareAll_snoc, keys_declare, ih, List.map_append, List.map_singleton, eraseDups_snoc]
    simp only [List.mem_eraseDups]

theorem nodup_keys_declareAll_nil (declared : List AttributeSpec) :
    ((declareAll [] declared).map AttributeSpec.key).Nodup := by
  induction declared using List.reverseRecOn with
  | nil => exact List.nodup_nil
  | append_singleton declared spec ih =>
    rw [declareAll_snoc, keys_declare]
    split
    · exact ih
    · rename_i unknown
      rw [← List.concat_eq_append]
      exact ih.concat unknown

theorem declare_of_unknown (unknown : spec.key ∉ specs.map AttributeSpec.key) :
    declare specs spec = specs ++ [spec] := by
  induction specs with
  | nil => rfl
  | cons first rest ih =>
    obtain ⟨other, unknown⟩ := List.ne_and_not_mem_of_not_mem_cons unknown
    rw [declare, if_neg (by simpa using Ne.symm other), ih unknown]
    rfl

/-- Attributes with keys of their own are put behind those that are there. -/
theorem declareAll_of_nodup (distinct : ((specs ++ declared).map AttributeSpec.key).Nodup) :
    declareAll specs declared = specs ++ declared := by
  induction declared using List.reverseRecOn with
  | nil => exact (List.append_nil specs).symm
  | append_singleton declared spec ih =>
    rw [← List.append_assoc, List.map_append, List.map_singleton, List.nodup_append] at distinct
    obtain ⟨distinct, -, apart⟩ := distinct
    have unknown : spec.key ∉ (specs ++ declared).map AttributeSpec.key := fun known =>
      apart _ known _ (List.mem_singleton_self _) rfl
    rw [declareAll_snoc, ih distinct, declare_of_unknown unknown, List.append_assoc]

end AttributeSchema

/-! ## Rows that say what a declaration says -/

theorem TargetKind.ofName?_eq_some_iff {name : String} {kind : TargetKind} :
    TargetKind.ofName? name = some kind ↔ kind.name = name := by
  constructor
  · intro named
    simpa [TargetKind.ofName?] using List.find?_some named
  · rintro rfl
    cases kind <;> decide

theorem TargetKind.name_injective : Function.Injective TargetKind.name := by
  intro kind other same
  have named := TargetKind.ofName?_eq_some_iff.mpr same
  exact Option.some.inj (named.symm.trans (TargetKind.ofName?_eq_some_iff.mpr rfl))

theorem AttributeKind.ofStored?_name (kind : AttributeKind) : ofStored? kind.name = some kind := by
  cases kind <;> decide

theorem AttributeKind.ofName?_name (kind : AttributeKind) : ofName? kind.name = some kind := by
  cases kind <;> decide

/-- A declaration as it can be stored: it is not of a built-in attribute. -/
def AttributeSpec.stored (spec : AttributeSpec) : AttributeSpec := { spec with builtin := false }

theorem AttributeSpec.keys_stored (specs : List AttributeSpec) :
    (specs.map stored).map key = specs.map key := List.map_map

/-- New attributes with keys of their own make a schema, behind the built-in ones. -/
theorem AttributeSchema.ofSpecs_of_nodup (tenant : String) {kind : TargetKind}
    {specs : List AttributeSpec} (single : (specs.map AttributeSpec.key).Nodup)
    (foreign : ∀ spec ∈ specs, kind.hasBuiltin spec.key = false) :
    ofSpecs tenant kind.name specs = .valid ⟨tenant, kind, kind.builtins ++ specs⟩ := by
  have clear : clash? kind specs = none := by
    refine List.find?_eq_none.mpr fun spec member => ?_
    rw [foreign spec member]
    exact Bool.false_ne_true
  have apart : ((kind.builtins ++ specs).map AttributeSpec.key).Nodup := by
    rw [List.map_append]
    refine List.nodup_append.mpr ⟨by cases kind <;> decide, single, ?_⟩
    rintro key builtin other member rfl
    obtain ⟨spec, among, same⟩ := List.mem_map.mp builtin
    obtain ⟨own, declared, rfl⟩ := List.mem_map.mp member
    have clashes : kind.hasBuiltin own.key = true :=
      List.any_eq_true.mpr ⟨spec, among, beq_iff_eq.mpr same⟩
    rw [foreign own declared] at clashes
    cases clashes
  rw [ofSpecs, TargetKind.ofName?_eq_some_iff.mpr rfl]
  dsimp only
  have distinct : declareAll [] specs = specs :=
    (declareAll_of_nodup (List.nil_append specs ▸ single)).trans (List.nil_append specs)
  rw [distinct, clear, declareAll_of_nodup apart]

namespace Form

variable {fields : Fields} {name : String}

theorem items_text (texts : List String) (position : Nat) :
    Checked.items text position (texts.map Value.text) = .valid texts := by
  induction texts generalizing position with
  | nil => rfl
  | cons content rest ih =>
    rw [List.map_cons, Checked.items, ih]
    rfl

theorem required_valid {α : Type} {read : Value → Checked α} {value : Value} {found : α}
    (there : fields.get? name = some value) (reads : read value = .valid found) :
    required fields name read = .valid found := by
  rw [required, there]
  dsimp only
  rw [reads]
  rfl

theorem formedText_valid {allowed : String → Bool} {content : String}
    (formed : allowed content = true) : formedText allowed (.text content) = .valid content :=
  if_pos formed

theorem choice_valid {α : Type} {ofName? : String → Option α} {content : String} {chosen : α}
    (named : ofName? content = some chosen) : choice ofName? (.text content) = .valid chosen := by
  rw [choice, named]

/-- A text that may be missing is read as it was written. -/
theorem nullable_ofTextOption {content : Option String}
    (there : fields.get? name = some (.ofTextOption content)) :
    nullable fields name text = .valid content := by
  rw [nullable, there]
  cases content <;> rfl

/-- A list of texts that may be missing is read as it was stored. -/
theorem nullable_storedTexts {texts : Option (List String)}
    (there : fields.get? name = some (Definition.storedTexts texts)) :
    nullable fields name (list text) = .valid texts := by
  rw [nullable, there]
  cases texts with
  | none => rfl
  | some texts =>
    change (Checked.map some (Checked.items text 0 (texts.map Value.text))).under name = _
    rw [items_text]
    rfl

end Form

/-- What is the same as stored texts is just these texts. -/
theorem Value.sameItems_texts {items : List Value} {texts : List String}
    (same : sameItems items (texts.map text) = true) : items = texts.map text := by
  induction texts generalizing items with
  | nil =>
    cases items with
    | nil => rfl
    | cons item rest => simp [sameItems] at same
  | cons content texts ih =>
    cases items with
    | nil => simp [sameItems] at same
    | cons item rest =>
      simp only [List.map_cons, sameItems, Bool.and_eq_true] at same
      rw [ih same.2, List.map_cons]
      cases item <;> simp_all [Value.same, sameDecimal]

namespace Definition

variable {row : Definition} {spec : AttributeSpec}

theorem eq_storedTexts_of_same {value : Value} {texts : Option (List String)}
    (same : value.same (storedTexts texts) = true) : value = storedTexts texts := by
  cases texts with
  | none => cases value <;> simp_all [storedTexts, Value.same, Value.sameDecimal]
  | some texts =>
    cases value with
    | list items =>
      have items := Value.sameItems_texts (by simpa [storedTexts, Value.same] using same)
      exact congrArg Value.list items
    | _ => simp_all [storedTexts, Value.same, Value.sameDecimal]

/-- A row is for the key of a declaration and has its contents. -/
def States (row : Definition) (spec : AttributeSpec) : Prop :=
  row.key = spec.key ∧ row.withSpec spec = row

/-- A row that need not be written has the contents already. -/
theorem withSpec_of_agrees (agrees : row.agrees spec = true) : row.withSpec spec = row := by
  obtain ⟨⟨⟨⟨⟨kind, label⟩, required⟩, options⟩, itemType⟩, properties⟩ := by
    simpa only [Definition.agrees, Bool.and_eq_true, beq_iff_eq] using agrees
  rw [withSpec, ← kind, ← label, ← required, ← eq_storedTexts_of_same options, ← itemType,
    ← eq_storedTexts_of_same properties]

/-- The form of what is stored of a declaration is valid. -/
theorem ofForm_withSpec (own : row.key = spec.key)
    (keyed : AttributeSpec.isKey spec.key = true) :
    AttributeSpec.ofForm ((row.withSpec spec).toForm spec.kind) = .valid spec.stored := by
  obtain ⟨form, made⟩ : ∃ form, form = (row.withSpec spec).toForm spec.kind := ⟨_, rfl⟩
  have key : form.get? "key" = some (.text spec.key) := made ▸ own ▸ rfl
  have kind : form.get? "type" = some (.text spec.kind.name) := made ▸ rfl
  have required : Form.withDefault form "required" false Form.boolean = .valid spec.required :=
    made ▸ rfl
  have label : form.get? "label" = some (.ofTextOption spec.label) := made ▸ rfl
  have options : form.get? "options" = some (storedTexts spec.options) := made ▸ rfl
  have itemType : form.get? "item_type" = some (.ofTextOption spec.itemType) := made ▸ rfl
  have properties : form.get? "properties" = some (storedTexts spec.properties) := made ▸ rfl
  have builtin : Form.withDefault form "builtin" false Form.boolean = .valid false := made ▸ rfl
  rw [← made, AttributeSpec.ofForm, Form.required_valid key (Form.formedText_valid keyed),
    Form.required_valid kind (Form.choice_valid spec.kind.ofName?_name), required,
    Form.nullable_ofTextOption label, Form.nullable_storedTexts options,
    Form.nullable_ofTextOption itemType, Form.nullable_storedTexts properties, builtin]
  rfl

/-- What a row says is read back, but for being built-in. -/
theorem States.toSpec (states : row.States spec) (keyed : AttributeSpec.isKey spec.key = true) :
    row.toSpec = .ok spec.stored := by
  obtain ⟨key, same⟩ := states
  rw [← same, Definition.toSpec]
  dsimp only
  rw [show (row.withSpec spec).kind = spec.kind.name from rfl, AttributeKind.ofStored?_name]
  dsimp only
  rw [ofForm_withSpec key keyed]

end Definition

/-! ## Tables of definitions -/

namespace Registry

variable {σ α : Type}

/-- The rows say in their order what the declarations say. -/
def Lists (rows : List Definition) (specs : List AttributeSpec) : Prop :=
  List.Forall₂ Definition.States rows specs

section Lists

variable {rows : List Definition} {specs : List AttributeSpec} {row : Definition}
  {spec : AttributeSpec}

theorem Lists.keys (lists : Lists rows specs) :
    rows.map Definition.key = specs.map AttributeSpec.key := by
  induction lists with
  | nil => rfl
  | cons states _ ih => rw [List.map_cons, List.map_cons, states.1, ih]

/-- A row with a new key is put behind the others. -/
theorem Lists.append (lists : Lists rows specs) (states : row.States spec)
    (unknown : spec.key ∉ rows.map Definition.key) :
    Lists (rows ++ [row]) (AttributeSchema.declare specs spec) := by
  rw [lists.keys] at unknown
  rw [AttributeSchema.declare_of_unknown unknown]
  exact List.rel_append lists (.cons states .nil)

/-- A row with a known key takes the place of the row that has it. -/
theorem Lists.replace (lists : Lists rows specs) (states : row.States spec)
    (single : (rows.map Definition.key).Nodup) (known : spec.key ∈ rows.map Definition.key) :
    Lists (rows.map fun other => if other.key == spec.key then row else other)
      (AttributeSchema.declare specs spec) := by
  induction lists with
  | nil => cases known
  | @cons first old rest olds same others ih =>
    obtain ⟨apart, single⟩ := List.nodup_cons.mp single
    rw [List.map_cons, AttributeSchema.declare, same.1]
    by_cases own : old.key = spec.key
    · rw [if_pos (beq_iff_eq.mpr own), if_pos (beq_iff_eq.mpr own)]
      have kept : ∀ other ∈ rest, (if other.key == spec.key then row else other) = other := by
        intro other member
        refine if_neg fun equal => apart ?_
        rw [same.1, own, ← eq_of_beq equal]
        exact List.mem_map_of_mem member
      rw [List.map_congr_left kept, List.map_id']
      exact .cons states others
    · rw [if_neg (by simpa using own), if_neg (by simpa using own)]
      have known := (List.mem_cons.mp known).resolve_left fun equal => own (same.1 ▸ equal.symm)
      exact .cons same (ih single known)

/-- Rows are read back as what was declared, but for being built-in. -/
theorem Lists.mapM_toSpec (lists : Lists rows specs)
    (keyed : ∀ spec ∈ specs, AttributeSpec.isKey spec.key = true) :
    rows.mapM Definition.toSpec = .ok (specs.map AttributeSpec.stored) := by
  induction lists with
  | nil => rfl
  | cons states _ ih =>
    obtain ⟨keyed, others⟩ := List.forall_mem_cons.mp keyed
    rw [List.mapM_cons, states.toSpec keyed, ih others]
    rfl

end Lists

section Put

variable {tenant target : String} {now : Moment} {spec : AttributeSpec} {store : Store α}

theorem isFor_iff {key : String} {row : Definition} : row.isFor tenant target key = true ↔
    (row.tenant = tenant ∧ row.target = target) ∧ row.key = key := by
  simp [Definition.isFor]

/-- Rows in which a row has taken the place of those for its attribute. -/
def replaced (row : Definition) (rows : List Definition) : List Definition :=
  rows.map fun old => if old.isFor row.tenant row.target row.key then row else old

theorem rows_replaced (row : Definition) (tenant target : String) :
    rows { store with definitions := replaced row store.definitions } tenant target =
      replaced row (rows store tenant target) := by
  rw [rows, replaced, List.filter_map]
  congr 1
  refine List.filter_congr fun old _ => ?_
  rw [Function.comp_apply]
  split
  · rename_i same
    obtain ⟨⟨own, about⟩, -⟩ := isFor_iff.mp same
    rw [own, about]
  · rfl

theorem rows_append (row : Definition) (tenant target : String) :
    rows { store with definitions := store.definitions ++ [row] } tenant target =
      rows store tenant target ++
        if row.tenant = tenant ∧ row.target = target then [row] else [] := by
  rw [rows, List.filter_append, List.filter_cons, List.filter_nil]
  simp only [Bool.and_eq_true, beq_iff_eq]
  rfl

theorem mem_rows {row : Definition} : row ∈ rows store tenant target ↔
    row ∈ store.definitions ∧ row.tenant = tenant ∧ row.target = target := by
  simp [rows]

/-- Whether there is a row for an attribute. -/
theorem mem_keys_rows {key : String} :
    key ∈ (rows store tenant target).map Definition.key ↔
      ∃ row ∈ store.definitions, row.isFor tenant target key = true := by
  simp [mem_rows, isFor_iff, and_assoc]

/-- A written declaration has a row of its own that says what it says: the row takes the place of
the one there was for the attribute, or is put behind all others. -/
theorem put_writes {written : Definition} {after : Store α}
    (puts : put tenant target now spec store = (written, after)) :
    written.States spec ∧ written.isFor tenant target spec.key = true ∧
      after = { store with definitions := (
        if spec.key ∈ (rows store tenant target).map Definition.key then
          replaced written store.definitions
        else store.definitions ++ [written]) } := by
  unfold put at puts
  split at puts
  · rename_i row found
    have about := List.find?_some found
    have known := mem_keys_rows.mpr ⟨row, List.mem_of_find?_eq_some found, about⟩
    obtain ⟨⟨own, kind⟩, key⟩ := isFor_iff.mp about
    rw [if_pos known]
    by_cases agrees : row.agrees spec = true
    · rw [if_pos agrees] at puts
      cases puts
      refine ⟨⟨key, Definition.withSpec_of_agrees agrees⟩, about, ?_⟩
      rw [replaced, own, kind, key]
    · rw [if_neg agrees] at puts
      cases puts
      refine ⟨⟨key, rfl⟩, about, ?_⟩
      rw [replaced, ← own, ← kind, ← key]
      rfl
  · rename_i none
    cases puts
    rw [if_neg fun known => ?_]
    · exact ⟨⟨rfl, rfl⟩, isFor_iff.mpr ⟨⟨rfl, rfl⟩, rfl⟩, rfl⟩
    · obtain ⟨row, member, about⟩ := mem_keys_rows.mp known
      exact List.find?_eq_none.mp none row member about

/-- The rows of the tenant's targets list the declaration as well. -/
theorem Lists.put {specs : List AttributeSpec} {written : Definition} {after : Store α}
    (lists : Lists (rows store tenant target) specs)
    (single : ((rows store tenant target).map Definition.key).Nodup)
    (puts : put tenant target now spec store = (written, after)) :
    Lists (rows after tenant target) (AttributeSchema.declare specs spec) := by
  obtain ⟨states, about, rfl⟩ := put_writes puts
  obtain ⟨⟨own, kind⟩, key⟩ := isFor_iff.mp about
  split
  · rename_i known
    have same : replaced written (rows store tenant target) =
        (rows store tenant target).map fun other =>
          if other.key == spec.key then written else other := by
      refine List.map_congr_left fun other member => ?_
      obtain ⟨-, owner, about⟩ := mem_rows.mp member
      simp [Definition.isFor, owner, about, own, kind, key]
    rw [rows_replaced, same]
    exact lists.replace states single known
  · rename_i unknown
    rw [rows_append, if_pos ⟨own, kind⟩]
    exact lists.append states unknown

/-- The rows of other targets stay as they are. -/
theorem rows_put_of_other {written : Definition} {after : Store α}
    (puts : put tenant target now spec store = (written, after)) {name other : String}
    (apart : ¬ (tenant = name ∧ target = other)) :
    rows after name other = rows store name other := by
  obtain ⟨-, about, rfl⟩ := put_writes puts
  obtain ⟨⟨rfl, rfl⟩, key⟩ := isFor_iff.mp about
  split
  · rw [rows_replaced]
    have kept : ∀ row ∈ rows store name other,
        (if row.isFor written.tenant written.target written.key then written else row) = row := by
      intro row member
      obtain ⟨-, rfl, rfl⟩ := mem_rows.mp member
      refine if_neg fun same => apart ?_
      obtain ⟨⟨owner, about⟩, -⟩ := isFor_iff.mp same
      exact ⟨owner.symm, about.symm⟩
    exact (List.map_congr_left kept).trans (List.map_id' _)
  · rw [rows_append, if_neg apart, List.append_nil]

end Put

/-! ## Calls -/

/-- A call that declares an attribute under a proper key, at the time at which it is made. -/
structure Call where
  now : Moment
  tenant : String
  target : String
  spec : AttributeSpec
  keyed : AttributeSpec.isKey spec.key = true

namespace Call

/-- Define the attribute. -/
def run (call : Call) : Run σ α Definition := define call.tenant call.target call.spec

/-- The call declares an attribute of a tenant's targets of a kind, and not a built-in one. -/
def Declares (call : Call) (tenant : String) (kind : TargetKind) : Prop :=
  call.tenant = tenant ∧ call.target = kind.name ∧ kind.hasBuiltin call.spec.key = false

instance (call : Call) (tenant : String) (kind : TargetKind) :
    Decidable (call.Declares tenant kind) := inferInstanceAs (Decidable (_ ∧ _ ∧ _))

/-- All that a call can do: it writes its declaration, or it is refused and changes nothing. -/
theorem ends (call : Call) (world : World σ α) (created : world.store.created = true) :
    Ends call.run world fun told after =>
      (∃ kind written store, call.Declares call.tenant kind ∧
        put call.tenant kind.name world.now call.spec world.store = (written, store) ∧
        told = .ok written ∧ after = { world with store }) ∨
      (∀ tenant kind, ¬ call.Declares tenant kind) ∧
        (∃ violation, told = .error (.violation violation)) ∧ after = world := by
  rw [run, define, ends_bind, ends_pure?, targetNamed]
  cases named : TargetKind.ofName? call.target with
  | none =>
    refine .inr ⟨fun tenant kind ⟨_, about, _⟩ => ?_, ⟨_, rfl⟩, rfl⟩
    rw [TargetKind.ofName?_eq_some_iff.mpr about.symm] at named
    cases named
  | some kind =>
    have about := TargetKind.ofName?_eq_some_iff.mp named
    dsimp only
    by_cases builtin : kind.hasBuiltin call.spec.key = true
    · rw [if_pos builtin, ends_bind, ends_throw]
      refine .inr ⟨fun tenant other ⟨_, same, free⟩ => ?_, ⟨_, rfl⟩, rfl⟩
      rw [TargetKind.ofName?_eq_some_iff.mpr same.symm] at named
      cases named
      rw [builtin] at free
      cases free
    · rw [if_neg builtin, ends_bind, ends_clock]
      dsimp only
      rw [ends_commit created]
      refine .inl ⟨kind, _, _, ⟨rfl, about.symm, by simpa using builtin⟩, rfl, ?_⟩
      rw [about]
      exact ⟨rfl, rfl⟩

end Call

/-- The world after calls of the registry. -/
def afterCalls (world : World σ α) (calls : List Call) : World σ α :=
  calls.foldl (fun world call => call.run.worldAfter { world with now := call.now }) world

/-- The tables of a registry in which nothing has been defined yet. -/
def undefined (world : World σ α) : World σ α :=
  { world with store := { world.store with created := true, definitions := [] } }

/-- What calls have declared for a tenant's targets of a kind. -/
def declared (tenant : String) (kind : TargetKind) (calls : List Call) : List AttributeSpec :=
  (calls.filter fun call => call.Declares tenant kind).map Call.spec

theorem declared_snoc (tenant : String) (kind : TargetKind) (calls : List Call) (call : Call) :
    declared tenant kind (calls ++ [call]) =
      if call.Declares tenant kind then declared tenant kind calls ++ [call.spec]
      else declared tenant kind calls := by
  rw [declared, List.filter_append, List.map_append, List.filter_cons, List.filter_nil]
  by_cases declares : call.Declares tenant kind
  · simp [declares, declared]
  · simp [declares, declared]

/-- What is declared has a proper key, and none of a built-in attribute. -/
theorem keys_of_declared {tenant : String} {kind : TargetKind} {calls : List Call}
    {spec : AttributeSpec} (member : spec ∈ declared tenant kind calls) :
    AttributeSpec.isKey spec.key = true ∧ kind.hasBuiltin spec.key = false := by
  obtain ⟨call, among, rfl⟩ := List.mem_map.mp member
  exact ⟨call.keyed, (of_decide_eq_true (List.mem_filter.mp among).2).2.2⟩

/-- The rows of each tenant's targets list what was declared for them. -/
structure Holds (calls : List Call) (store : Store α) : Prop where
  created : store.created = true
  lists : ∀ tenant kind, Lists (rows store tenant kind.name)
    (AttributeSchema.declareAll [] (declared tenant kind calls))

/-- One more call declares one more attribute, or none. -/
theorem Holds.snoc {calls : List Call} {world : World σ α} (holds : Holds calls world.store)
    (call : Call) : Holds (calls ++ [call]) (call.run.worldAfter world).store := by
  change Ends call.run world fun _ after => Holds (calls ++ [call]) after.store
  refine (call.ends world holds.created).mono fun told after ends => ?_
  rcases ends with ⟨kind, written, store, declares, puts, -, rfl⟩ | ⟨refused, -, rfl⟩
  · have kept : store.created = world.store.created := by rw [(put_writes puts).2.2]
    have single : ((rows world.store call.tenant kind.name).map Definition.key).Nodup := by
      rw [(holds.lists _ _).keys]
      exact AttributeSchema.nodup_keys_declareAll_nil _
    refine ⟨kept.trans holds.created, fun tenant other => ?_⟩
    rw [declared_snoc]
    by_cases own : call.tenant = tenant ∧ kind.name = other.name
    · obtain ⟨rfl, same⟩ := own
      cases TargetKind.name_injective same
      rw [if_pos declares, AttributeSchema.declareAll_snoc]
      exact (holds.lists _ _).put single puts
    · rw [rows_put_of_other puts own,
        if_neg fun also => own ⟨also.1, declares.2.1.symm.trans also.2.1⟩]
      exact holds.lists tenant other
  · refine ⟨holds.created, fun tenant kind => ?_⟩
    rw [declared_snoc, if_neg (refused tenant kind)]
    exact holds.lists tenant kind

theorem holds_afterCalls (world : World σ α) (calls : List Call) :
    Holds calls (afterCalls (undefined world) calls).store := by
  induction calls using List.reverseRecOn with
  | nil => exact ⟨rfl, fun tenant kind => .nil⟩
  | append_singleton calls call holds =>
    rw [afterCalls, List.foldl_append]
    have earlier : Holds calls { afterCalls (undefined world) calls with now := call.now }.store :=
      holds
    exact earlier.snoc call

/-! ## What is loaded -/

/-- A schema of a tenant's targets lists the built-in attributes as they are, and behind them what
was declared, each key where it was declared first and as it was declared last. -/
structure Returns (schema : AttributeSchema) (tenant : String) (kind : TargetKind)
    (specs : List AttributeSpec) : Prop where
  tenant_eq : schema.tenant = tenant
  target_eq : schema.target = kind
  builtin : ∀ spec ∈ kind.builtins, schema.get? spec.key = some spec
  custom : ∀ key, kind.hasBuiltin key = false →
    schema.get? key = (specs.reverse.find? fun spec => spec.key == key).map AttributeSpec.stored
  keys_eq : schema.keys =
    kind.builtins.map AttributeSpec.key ++ (specs.map AttributeSpec.key).eraseDups
  custom_eq : schema.custom.map AttributeSpec.key = (specs.map AttributeSpec.key).eraseDups

/-- The schema of declared attributes. -/
def schemaWith (tenant : String) (kind : TargetKind) (specs : List AttributeSpec) :
    AttributeSchema :=
  ⟨tenant, kind, kind.builtins ++ (AttributeSchema.declareAll [] specs).map AttributeSpec.stored⟩

theorem returns_schemaWith (tenant : String) (kind : TargetKind) (specs : List AttributeSpec) :
    Returns (schemaWith tenant kind specs) tenant kind specs where
  tenant_eq := rfl
  target_eq := rfl
  builtin spec member := by
    rw [AttributeSchema.get?, schemaWith, List.find?_append, kind.find?_builtins spec member]
    rfl
  custom key free := by
    have none : (kind.builtins.find? fun spec => spec.key == key) = none :=
      List.find?_eq_none.mpr (List.any_eq_false.mp free)
    rw [AttributeSchema.get?, schemaWith, List.find?_append, none, Option.none_or, List.find?_map,
      ← AttributeSchema.find?_declareAll_nil]
    rfl
  keys_eq := by
    rw [AttributeSchema.keys, schemaWith, List.map_append, AttributeSpec.keys_stored,
      AttributeSchema.keys_declareAll_nil]
  custom_eq := by
    have builtins : (kind.builtins.filter fun spec => !spec.builtin) = [] := by
      cases kind <;> decide
    have others : (((AttributeSchema.declareAll [] specs).map AttributeSpec.stored).filter
        fun spec => !spec.builtin) =
          (AttributeSchema.declareAll [] specs).map AttributeSpec.stored :=
      List.filter_eq_self.mpr (List.forall_mem_map.mpr fun _ _ => rfl)
    rw [AttributeSchema.custom, schemaWith, List.filter_append, builtins, others, List.nil_append,
      AttributeSpec.keys_stored, AttributeSchema.keys_declareAll_nil]

/-- Rows that list declarations make the schema of them. -/
theorem Lists.schemaOf {rows : List Definition} {specs : List AttributeSpec}
    (lists : Lists rows specs) (tenant : String) {kind : TargetKind}
    (single : (specs.map AttributeSpec.key).Nodup)
    (own : ∀ spec ∈ specs, AttributeSpec.isKey spec.key = true ∧ kind.hasBuiltin spec.key = false) :
    schemaOf tenant kind.name rows =
      .ok ⟨tenant, kind, kind.builtins ++ specs.map AttributeSpec.stored⟩ := by
  have read := lists.mapM_toSpec fun spec member => (own spec member).1
  rw [← AttributeSpec.keys_stored] at single
  have foreign : ∀ spec ∈ specs.map AttributeSpec.stored, kind.hasBuiltin spec.key = false :=
    List.forall_mem_map.mpr fun spec member => (own spec member).2
  simp only [Registry.schemaOf, read, bind, Except.bind,
    AttributeSchema.ofSpecs_of_nodup tenant single foreign]
  rfl

/-- The schema of what was declared can be loaded, and loading it changes nothing. -/
theorem load_ends {calls : List Call} {world : World σ α} (holds : Holds calls world.store)
    (tenant : String) (kind : TargetKind) :
    Ends (load tenant kind.name) world fun loaded after =>
      loaded = .ok (schemaWith tenant kind (declared tenant kind calls)) ∧ after = world := by
  have own : ∀ spec ∈ AttributeSchema.declareAll [] (declared tenant kind calls),
      AttributeSpec.isKey spec.key = true ∧ kind.hasBuiltin spec.key = false := by
    intro spec member
    exact keys_of_declared ((AttributeSchema.mem_declareAll member).resolve_right List.not_mem_nil)
  rw [load, ends_bind, ends_pure?, targetNamed, TargetKind.ofName?_eq_some_iff.mpr rfl]
  dsimp only
  rw [ends_bind, ends_query holds.created]
  dsimp only
  rw [ends_pure?]
  exact ⟨(holds.lists tenant kind).schemaOf tenant
    (AttributeSchema.nodup_keys_declareAll_nil _) own, rfl⟩

/-- The registry returns what was defined. Whatever was declared for tenants and targets, the schema
of a tenant's targets of either kind can be loaded and lists what was declared for them last, behind
the built-in attributes. A call is refused if it is about no kind of targets or about a built-in
attribute; a refused call changes nothing, and no call changes the rows of other targets. -/
theorem registry_returns_declarations (world : World σ α) (calls : List Call) (tenant : String)
    (kind : TargetKind) :
    let now := afterCalls (undefined world) calls
    Ends (load tenant kind.name) now (fun loaded same => same = now ∧
      ∃ schema, loaded = .ok schema ∧ Returns schema tenant kind (declared tenant kind calls)) ∧
    ∀ call : Call, Ends call.run { now with now := call.now } fun told after =>
      ((∃ row, told = .ok row) ↔ ∃ kind, call.Declares call.tenant kind) ∧
      (∀ failure, told = .error failure →
        (∃ violation, failure = .violation violation) ∧ after = { now with now := call.now }) ∧
      (¬ call.Declares tenant kind →
        rows after.store tenant kind.name = rows now.store tenant kind.name) := by
  intro now
  have holds : Holds calls now.store := holds_afterCalls world calls
  constructor
  · refine (load_ends holds tenant kind).mono fun loaded same ⟨found, unchanged⟩ => ?_
    exact ⟨unchanged, _, found, returns_schemaWith tenant kind _⟩
  · intro call
    refine (call.ends { now with now := call.now } holds.created).mono fun told after ends => ?_
    rcases ends with ⟨other, written, store, declares, puts, rfl, rfl⟩ |
      ⟨refused, ⟨violation, rfl⟩, rfl⟩
    · refine ⟨⟨fun _ => ⟨other, declares⟩, fun _ => ⟨written, rfl⟩⟩, nofun, fun apart => ?_⟩
      refine rows_put_of_other puts fun own => apart ⟨own.1, declares.2.1.trans own.2, ?_⟩
      exact TargetKind.name_injective own.2 ▸ declares.2.2
    · refine ⟨⟨nofun, fun ⟨other, declares⟩ => absurd declares (refused _ _)⟩, ?_, fun _ => rfl⟩
      rintro failure ⟨⟩
      exact ⟨⟨violation, rfl⟩, rfl⟩

namespace Sample

/-- A score that is a number. -/
def number : AttributeSpec := ⟨"score", .number, true, none, none, none, none, false⟩

/-- A plan, said to be built-in. -/
def plan : AttributeSpec := ⟨"plan", .string, false, none, none, none, none, true⟩

/-- A score that is one of two words. -/
def word : AttributeSpec :=
  ⟨"score", .enumeration, false, some "Score", some ["low", "high"], none, none, false⟩

/-- A score is declared, a plan, and the score again. -/
def calls : List Call :=
  [⟨Sample.dawn, "t", "customer", number, by decide⟩,
    ⟨Sample.dawn, "t", "customer", plan, by decide⟩,
    ⟨Sample.dawn, "t", "customer", word, by decide⟩]

end Sample

/-- The score stands first and is one of two words, whatever is declared of services. -/
theorem sample_registry_returns :
    let now : World Unit Binary64 :=
      afterCalls (undefined (World.opened Sample.dawn ())) Sample.calls
    Ends (load "t" TargetKind.customer.name) now (fun loaded same => same = now ∧
      ∃ schema, loaded = .ok schema ∧ schema.get? "score" = some Sample.word ∧
        schema.custom.map AttributeSpec.key = ["score", "plan"]) ∧
    Ends (define "t" "service" Sample.number) { now with now := Sample.dawn } fun _ after =>
      rows after.store "t" "customer" = rows now.store "t" "customer" := by
  intro now
  obtain ⟨loads, calls⟩ := registry_returns_declarations
    (World.opened Sample.dawn () : World Unit Binary64) Sample.calls "t" .customer
  constructor
  · refine loads.mono fun loaded same ⟨unchanged, schema, found, lists⟩ => ?_
    refine ⟨unchanged, schema, found, ?_, ?_⟩
    · rw [lists.custom "score" (by decide)]
      decide +kernel
    · rw [lists.custom_eq]
      decide +kernel
  · refine (calls ⟨Sample.dawn, "t", "service", Sample.number, by decide⟩).mono
      fun told after ⟨_, _, apart⟩ => ?_
    exact apart fun declares => absurd declares.2.1 (by decide)

end Registry

end Herald
