import Herald.Proofs.Integers
import Herald.Segment.Operand

/-! # The forms of operands

Every operator documents a form for its operand, and reading an operand succeeds exactly if it has
that form. Two things stand beside the rule: an operand of the right form can be too large to be
written down, and some operands of a wrong form are refused in another way than as malformed.
-/

namespace Herald

open Value (Refusal)

/-- What an operator expects of its operand. -/
inductive OperandForm
  | nothing
  | text
  | number
  | range
  | days
  | date
  | options
  | count
  | members
  | expiryDays
  | expiryDate
  | expiry
  deriving DecidableEq

/-- The form of an operator's operand, which for equality depends on the kind of attribute. -/
def Operator.form (kind : AttributeKind) : Operator → OperandForm
  | .equals | .notEquals => if kind = .number then .number else .text
  | .contains | .notContains | .startsWith | .endsWith | .exists => .text
  | .greaterThan | .lessThan | .greaterThanOrEqual | .lessThanOrEqual => .number
  | .between => .range
  | .expiresInDaysEq | .expiresInDaysGt | .expiresInDaysGte | .expiresInDaysLt
  | .expiresInDaysLte | .daysAgoEq | .daysAgoGt | .daysAgoGte | .daysAgoLt | .daysAgoLte
  | .expiresWithin | .expiredSince => .days
  | .equalsDate | .before | .after => .date
  | .isIn | .notIn => .options
  | .count => .count
  | .anyOf | .allOf | .noneOf => .members
  | .anyExpiryInDays | .anyExpiryWithin | .anyExpiryExpiredSince => .expiryDays
  | .anyExpiryAfter => .expiryDate
  | .anyExpiryToday => .expiry
  | .isSet | .isNotSet | .isTrue | .isFalse | .notEmpty | .isEmpty => .nothing

/-- What an operand holds under a name, if it is a record, or else the operand itself. -/
def Value.part (value : Value) (name : String) : Value :=
  match value with
  | .record fields => Fields.getOrNull fields name
  | value => value

theorem Value.record_or_plain (value : Value) :
    (∃ fields : Fields, value = .record fields) ∨ ∀ fields : Fields, value ≠ .record fields := by
  cases value with
  | record fields => exact .inl ⟨fields, rfl⟩
  | _ => simp

theorem Value.list_or_single (value : Value) :
    (∃ items, value = .list items) ∨ ∀ items, value ≠ .list items := by
  cases value with
  | list items => exact .inl ⟨items, rfl⟩
  | _ => simp

/-- A value that reads as a number of any kind. -/
def Value.IsNumber (value : Value) : Prop := ∃ number, value.decimal? = some number

/-- A value that reads as a date. -/
def Value.IsDate (value : Value) : Prop := ∃ day, value.date? = some day

/-- A list with an item that is too deep to be written, or another value that is. -/
def Value.HasDeepOption : Value → Prop
  | .list items => ∃ item ∈ items, item.isTooDeep = true
  | value => value.isTooDeep = true

/-- An operand that names a property that is too deep to be written. -/
def Value.HasDeepProperty (value : Value) : Prop :=
  ∃ property, value.field? "property" = some property ∧ property.isTooDeep = true

namespace OperandForm

/-- The names of the relations that a count may be compared with. -/
def countNames : List String :=
  ["equals", "greater_than", "greater_than_or_equal", "less_than", "less_than_or_equal",
    "not_equals"]

/-- An operand that compares a count with a size. -/
def ComparesCount (value size : Value) : Prop :=
  ∃ (fields : Fields) (name : String), value = .record fields ∧
    fields.getOrNull "operator" = .text name ∧ name ∈ countNames ∧ fields.getOrNull "value" = size

/-- An operand of a count whose relation has a name that cannot be looked for among names. -/
def NamesNothing (value : Value) : Prop :=
  ∃ (fields : Fields) (fault : NameFault), value = .record fields ∧
    (fields.getOrNull "operator").nameFault? = some fault

/-- The operands that have a form. -/
def Admits : OperandForm → Value → Prop
  | .nothing, _ => True
  | .text, value => value ≠ .null
  | .number, value => value.IsNumber
  | .range, value => ∃ low high, value.field? "min" = some low ∧ low.IsNumber ∧
    value.field? "max" = some high ∧ high.IsNumber
  | .days, value => ∃ days, (value.part "days").IsInteger days
  | .date, value => value.IsDate
  | .options, value => value ≠ .null
  | .count, value => ∃ size count, ComparesCount value size ∧ size.IsInteger count
  | .members, value => value.part "values" ≠ .null ∧ value.part "values" ≠ .list []
  | .expiryDays, value => ∃ days, (value.part "days").IsInteger days
  | .expiryDate, value => (value.part "date").IsDate
  | .expiry, _ => True

/-- The operands at which reading breaks off with another failure than a malformed operand: a text
that is too deep to be written, a number of days or elements that is infinite or signaling, and a
relation whose name cannot be looked for among names. -/
def Breaks : OperandForm → Value → Prop
  | .text, value => value.isTooDeep = true
  | .options, value => value.HasDeepOption
  | .members, value => (value.part "values").HasDeepOption
  | .days, value => (value.part "days").RefusesInteger
  | .expiryDays, value => (value.part "days").RefusesInteger
  | .count, value =>
    NamesNothing value ∨ ∃ size, ComparesCount value size ∧ size.RefusesInteger
  | _, _ => False

/-- The operands that cannot be reported: a number of days or elements with too many digits, and a
property whose name is too deep to be written. -/
def Unreportable : OperandForm → Value → Prop
  | .days, value => ∃ days, (value.part "days").IsInteger days ∧ Number.isOverlong days = true
  | .count, value =>
    ∃ size count, ComparesCount value size ∧ size.IsInteger count ∧ Number.isOverlong count = true
  | .expiryDays, value => value.HasDeepProperty ∨
    ∃ days, (value.part "days").IsInteger days ∧ Number.isOverlong days = true
  | .members, value => value.HasDeepProperty
  | .expiryDate, value => value.HasDeepProperty
  | .expiry, value => value.HasDeepProperty
  | _, _ => False

end OperandForm

namespace Operand

variable {α β : Type}

/-- When reading succeeds, and when it breaks off. -/
structure Settles (read : Read α) (admits breaks : Prop) : Prop where
  ok_iff : (∃ result, read = .ok result) ↔ admits ∧ ¬ breaks
  refused_iff : (∃ refusal, read = .error (.refused refusal)) ↔ breaks

theorem settles_ok (result : α) {admits breaks : Prop} (fits : admits) (sound : ¬ breaks) :
    Settles (.ok result : Read α) admits breaks :=
  ⟨⟨fun _ => ⟨fits, sound⟩, fun _ => ⟨result, rfl⟩⟩, ⟨nofun, fun broken => absurd broken sound⟩⟩

theorem settles_malformed (message : String) {admits breaks : Prop} (unfit : ¬ admits)
    (sound : ¬ breaks) : Settles (malformed message : Read α) admits breaks :=
  ⟨⟨nofun, fun fits => absurd fits.1 unfit⟩, ⟨nofun, fun broken => absurd broken sound⟩⟩

theorem settles_refused (refusal : Refusal) {admits breaks : Prop} (broken : breaks) :
    Settles (.error (.refused refusal) : Read α) admits breaks :=
  ⟨⟨nofun, fun fits => absurd broken fits.2⟩, ⟨fun _ => broken, fun _ => ⟨refusal, rfl⟩⟩⟩

theorem Settles.congr {read : Read α} {admits breaks fits fails : Prop}
    (settles : Settles read admits breaks) (fit : fits ↔ admits) (fail : fails ↔ breaks) :
    Settles read fits fails := by
  rwa [propext fit, propext fail]

theorem Settles.map {read : Read α} {admits breaks : Prop} (settles : Settles read admits breaks)
    (f : α → β) : Settles (read.map f) admits breaks := by
  obtain ⟨ok, refused⟩ := settles
  cases read with
  | ok result => exact ⟨by simpa [Except.map] using ok, by simpa [Except.map] using refused⟩
  | error problem => exact ⟨by simpa [Except.map] using ok, by simpa [Except.map] using refused⟩

theorem Except.map_eq_ok_iff {f : α → β} {read : Read α} {result : β} :
    read.map f = .ok result ↔ ∃ found, read = .ok found ∧ f found = result := by
  cases read <;> simp [Except.map]

/-- What breaks off a part of reading breaks off all of it. -/
theorem Settles.of_error {problem : OperandProblem} {admits breaks fits : Prop}
    (settles : Settles (.error problem : Read α) admits breaks) (narrower : fits → admits) :
    Settles (.error problem : Read β) fits breaks := by
  refine ⟨⟨nofun, fun ⟨fit, sound⟩ => ?_⟩, ?_⟩
  · obtain ⟨_, ⟨⟩⟩ := settles.ok_iff.mpr ⟨narrower fit, sound⟩
  · simpa using settles.refused_iff

/-! ## Texts -/

theorem isNull_iff {value : Value} : value.isNull = true ↔ value = .null := by
  cases value <;> simp [Value.isNull]

theorem not_isTooDeep_null : ¬ Value.null.isTooDeep = true := Bool.false_ne_true

theorem written_settles (value : Value) {admits : Prop} (fits : admits) :
    Settles (written value) admits (value.isTooDeep = true) := by
  unfold written Value.written
  split
  · rename_i deep
    exact settles_refused .tooDeep deep
  · rename_i shallow
    exact settles_ok _ fits shallow

theorem text_settles (value : Value) :
    Settles (text value) (OperandForm.text.Admits value) (OperandForm.text.Breaks value) := by
  unfold text
  split
  · rename_i null
    cases isNull_iff.mp null
    exact settles_malformed _ (fun some => some rfl) not_isTooDeep_null
  · rename_i some
    exact written_settles value fun null => some (isNull_iff.mpr null)

theorem items_settle (items : List Value) {admits : Prop} (fits : admits) :
    Settles (items.mapM written) admits (∃ item ∈ items, item.isTooDeep = true) := by
  induction items with
  | nil => exact settles_ok [] fits (by simp)
  | cons item rest ih =>
    rw [List.mapM_cons]
    by_cases deep : item.isTooDeep = true
    · have refused : written item = .error (.refused .tooDeep) := by
        rw [written, Value.written, if_pos deep]
        rfl
      rw [refused]
      exact settles_refused .tooDeep ⟨item, List.mem_cons_self, deep⟩
    · have read : written item = .ok item.shown := by
        rw [written, Value.written, if_neg deep]
        rfl
      have same : (∃ other ∈ item :: rest, other.isTooDeep = true) ↔
          ∃ other ∈ rest, other.isTooDeep = true := by simp [deep]
      have settled := ih.map (item.shown :: ·)
      rw [read, same]
      cases tail : rest.mapM written with
      | ok texts => exact tail ▸ settled
      | error problem => exact tail ▸ settled

/-- A value that is neither null nor a list is the only option. -/
theorem options_of_single {value : Value} (some : value ≠ .null)
    (single : ∀ items, value ≠ .list items) : options value = (written value).map ([·]) := by
  cases value with
  | null => exact absurd rfl some
  | list items => exact absurd rfl (single items)
  | _ => rfl

theorem hasDeepOption_of_single {value : Value} (single : ∀ items, value ≠ .list items) :
    value.HasDeepOption ↔ value.isTooDeep = true := by
  cases value with
  | list items => exact absurd rfl (single items)
  | _ => rfl

theorem options_settles (value : Value) :
    Settles (options value) (value ≠ .null) value.HasDeepOption := by
  by_cases null : value = .null
  · subst null
    exact settles_malformed _ (fun some => some rfl) not_isTooDeep_null
  rcases value.list_or_single with ⟨items, rfl⟩ | single
  · exact (items_settle items null).map List.eraseDups
  · rw [options_of_single null single, hasDeepOption_of_single single]
    exact (written_settles value null).map ([·])

/-- No option is left only if there was none. -/
theorem options_eq_nil_iff {value : Value} : options value = .ok [] ↔ value = .list [] := by
  constructor
  · intro read
    by_cases null : value = .null
    · subst null
      cases read
    rcases value.list_or_single with ⟨items, rfl⟩ | single
    · cases items with
      | nil => rfl
      | cons item rest =>
        obtain ⟨texts, wrote, none⟩ := Except.map_eq_ok_iff.mp read
        rw [List.mapM_cons] at wrote
        cases head : written item with
        | error problem => rw [head] at wrote; cases wrote
        | ok text =>
          obtain ⟨others, -, rfl⟩ := Except.map_eq_ok_iff.mp
            (show (rest.mapM written).map (text :: ·) = .ok texts by rw [← wrote, head]; rfl)
          rw [List.eraseDups_cons] at none
          cases none
    · rw [options_of_single null single] at read
      obtain ⟨text, -, none⟩ := Except.map_eq_ok_iff.mp read
      cases none
  · rintro rfl
    rfl

theorem membership_eq (value : Value) :
    membership value = match options (value.part "values") with
      | .error problem => .error problem
      | .ok [] => malformed "at least one value is required"
      | .ok texts => .ok ((value.field? "property").getD .null, texts) := by
  cases value <;> rfl

/-- The property of a membership operator is the one that its operand names. -/
theorem property_of_membership {value property : Value} {wanted : List String}
    (read : membership value = .ok (property, wanted)) :
    property = (value.field? "property").getD .null := by
  rw [membership_eq] at read
  split at read <;> cases read
  rfl

/-- The texts that a membership operator wants are options, one at least. -/
theorem membership_settles (value : Value) :
    Settles (membership value) (OperandForm.members.Admits value)
      (OperandForm.members.Breaks value) := by
  have settled := options_settles (value.part "values")
  rw [membership_eq]
  cases read : options (value.part "values") with
  | error problem => exact (read ▸ settled).of_error And.left
  | ok texts =>
    obtain ⟨some, sound⟩ := settled.ok_iff.mp ⟨texts, read⟩
    cases texts with
    | nil => exact settles_malformed _ (fun admits => admits.2 (options_eq_nil_iff.mp read)) sound
    | cons text texts =>
      refine settles_ok _ ⟨some, fun none => ?_⟩ sound
      rw [options_eq_nil_iff.mpr none] at read
      cases read

/-! ## Numbers and dates -/

theorem number_settles (value : Value) : Settles (number value) value.IsNumber False := by
  unfold number Value.IsNumber
  cases value.decimal? with
  | none => exact settles_malformed _ nofun id
  | some number => exact settles_ok number ⟨number, rfl⟩ id

theorem date_settles (value : Value) : Settles (date value) value.IsDate False := by
  unfold date Value.IsDate
  cases value.date? with
  | none => exact settles_malformed _ nofun id
  | some day => exact settles_ok day ⟨day, rfl⟩ id

theorem propertyDate_eq (value : Value) : propertyDate value = date (value.part "date") := by
  cases value <;> rfl

theorem range_settles (value : Value) :
    Settles (range value) (OperandForm.range.Admits value) False := by
  unfold range
  split
  · rename_i low high least most
    have same : OperandForm.range.Admits value ↔ low.IsNumber ∧ high.IsNumber := by
      simp [OperandForm.Admits, least, most]
    rw [same]
    have first := number_settles low
    cases read : number low with
    | error problem => exact (read ▸ first).of_error And.left
    | ok number =>
      obtain ⟨fits, -⟩ := first.ok_iff.mp ⟨number, read⟩
      have second := (number_settles high).map (Prod.mk number)
      rw [iff_true_intro fits, true_and]
      cases other : Operand.number high with
      | error problem => exact other ▸ second
      | ok limit => exact other ▸ second
  · rename_i missing
    refine settles_malformed _ ?_ id
    rintro ⟨low, high, least, -, most, -⟩
    exact missing low high least most

/-! ## Integers -/

/-- Reading an integer, with a sentence for a value that is none. -/
def integer (message : String) (value : Value) : Read ℤ :=
  match value.int? with
  | .ok (some number) => .ok number
  | .ok none => malformed message
  | .error refusal => .error (.refused refusal)

theorem integer_eq_ok_iff {message : String} {value : Value} {number : ℤ} :
    integer message value = .ok number ↔ value.IsInteger number := by
  rw [← Value.isInteger_iff, integer]
  cases value.int? with
  | ok found => cases found <;> simp [malformed]
  | error refusal => simp

theorem integer_settles (message : String) (value : Value) :
    Settles (integer message value) (∃ number, value.IsInteger number) value.RefusesInteger := by
  cases read : value.int? with
  | error refusal =>
    rw [integer, read]
    exact settles_refused refusal (Value.refusesInteger_iff.mp ⟨refusal, read⟩)
  | ok found =>
    have sound : ¬ value.RefusesInteger := by
      rw [← Value.refusesInteger_iff, read]
      nofun
    cases found with
    | some number =>
      rw [integer, read]
      exact settles_ok number ⟨number, Value.isInteger_iff.mp read⟩ sound
    | none =>
      rw [integer, read]
      refine settles_malformed message ?_ sound
      rintro ⟨number, is⟩
      rw [Value.isInteger_iff.mpr is] at read
      cases read

theorem days_eq (value : Value) :
    days value = integer "an integer day count is required" (value.part "days") := by
  cases value <;> rfl

/-! ## Counts -/

theorem mem_countNames_iff {name : String} :
    name ∈ OperandForm.countNames ↔ ∃ relation, countRelations.lookup name = some relation := by
  rw [← Option.isSome_iff_exists, List.lookup_isSome_iff]
  simp [OperandForm.countNames, countRelations]

theorem asName_eq_text_iff {value : Value} {name : String} :
    value.asName = .ok (some name) ↔ value = .text name := by
  cases value with
  | decimal number => cases h : number.isSignaling <;> simp [Value.asName, Value.nameFault?, h]
  | _ => simp [Value.asName, Value.nameFault?]

theorem asName_error_iff {value : Value} :
    (∃ refusal, value.asName = .error refusal) ↔ ∃ fault, value.nameFault? = some fault := by
  unfold Value.asName
  cases value.nameFault? with
  | none => cases value <;> simp
  | some fault => simp

/-- How the operand of a count is read. -/
inductive ReadsCount (value : Value) : Prop
  | refused {refusal : Refusal} (nothing : OperandForm.NamesNothing value)
    (read : count value = .error (.refused refusal))
  | malformed {message : String} (nameable : ¬ OperandForm.NamesNothing value)
    (stranger : ∀ size, ¬ OperandForm.ComparesCount value size)
    (read : count value = malformed message)
  | sized {relation : Relation} {size : Value} {message : String}
    (nameable : ¬ OperandForm.NamesNothing value)
    (compares : ∀ other, OperandForm.ComparesCount value other ↔ size = other)
    (read : count value = (integer message size).map (Prod.mk relation))

/-- A count whose relation is known is read as its size. -/
theorem readsCount_of_relation {fields : Fields} {name : String} {relation : Relation}
    (named : fields.getOrNull "operator" = .text name)
    (known : countRelations.lookup name = some relation) : ReadsCount (.record fields) := by
  have nameable : ¬ OperandForm.NamesNothing (.record fields) := by
    rintro ⟨_, fault, ⟨⟩, found⟩
    rw [named] at found
    cases found
  have compares : ∀ other, OperandForm.ComparesCount (.record fields) other ↔
      fields.getOrNull "value" = other := by
    refine fun other => ⟨?_, fun found => ?_⟩
    · rintro ⟨_, _, ⟨⟩, -, -, found⟩
      exact found
    · exact ⟨fields, name, rfl, named, mem_countNames_iff.mpr ⟨relation, known⟩, found⟩
  refine .sized nameable compares
    (?_ : _ = (integer "count value must be an integer" _).map (Prod.mk relation))
  have looked : (some name).bind (List.lookup · countRelations) = some relation := known
  have read : (Value.text name).asName.mapError OperandProblem.refused = .ok (some name) := rfl
  rw [count, named, read]
  dsimp only [bind, Except.bind]
  rw [looked, integer]
  cases (fields.getOrNull "value").int? with
  | error refusal => rfl
  | ok found => cases found <;> rfl

/-- A count whose relation is not known is malformed. -/
theorem readsCount_of_unknown {fields : Fields} {name? : Option String}
    (named : (fields.getOrNull "operator").asName = .ok name?)
    (unknown : name?.bind (List.lookup · countRelations) = none) : ReadsCount (.record fields) := by
  have malformed : ∃ message, count (.record fields) = malformed message := by
    rw [count, named]
    dsimp only [Except.mapError, bind, Except.bind]
    rw [unknown]
    exact ⟨_, rfl⟩
  obtain ⟨message, read⟩ := malformed
  refine .malformed ?_ ?_ read
  · rintro ⟨_, fault, ⟨⟩, found⟩
    obtain ⟨_, refused⟩ := asName_error_iff.mpr ⟨fault, found⟩
    rw [named] at refused
    cases refused
  · rintro size ⟨_, name, ⟨⟩, text, known, -⟩
    obtain ⟨relation, known⟩ := mem_countNames_iff.mp known
    rw [asName_eq_text_iff.mpr text] at named
    cases named
    exact absurd (known.symm.trans unknown) nofun

theorem readsCount (value : Value) : ReadsCount value := by
  rcases value.record_or_plain with ⟨fields, rfl⟩ | plain
  · cases named : (fields.getOrNull "operator").asName with
    | error refusal =>
      obtain ⟨fault, found⟩ := asName_error_iff.mp ⟨refusal, named⟩
      have refused : count (.record fields) = .error (.refused refusal) := by
        rw [count, named]
        rfl
      exact .refused ⟨fields, fault, rfl, found⟩ refused
    | ok name? =>
      cases known : name?.bind (List.lookup · countRelations) with
      | none => exact readsCount_of_unknown named known
      | some relation =>
        obtain ⟨name, rfl, known⟩ := Option.bind_eq_some_iff.mp known
        exact readsCount_of_relation (asName_eq_text_iff.mp named) known
  · have malformed : ∃ message, count value = malformed message := by
      cases value with
      | record fields => exact absurd rfl (plain fields)
      | _ => exact ⟨_, rfl⟩
    obtain ⟨message, read⟩ := malformed
    exact .malformed (fun ⟨fields, _, same, _⟩ => plain fields same)
      (fun _ ⟨fields, _, same, _⟩ => plain fields same) read

theorem count_settles (value : Value) :
    Settles (count value) (OperandForm.count.Admits value) (OperandForm.count.Breaks value) := by
  cases readsCount value with
  | refused nothing read => exact read ▸ settles_refused _ (.inl nothing)
  | malformed nameable stranger read =>
    refine read ▸ settles_malformed _ (fun ⟨size, _, compares, _⟩ => stranger size compares) ?_
    exact fun breaks => breaks.elim nameable fun ⟨size, compares, _⟩ => stranger size compares
  | sized nameable compares read =>
    refine read ▸ ((integer_settles _ _).map _).congr ?_ ?_
    · simp [OperandForm.Admits, compares]
    · simp [OperandForm.Breaks, compares, nameable]

/-- A count is compared with the size that its operand names. -/
theorem isInteger_of_count {value size : Value} {relation : Relation} {number : ℤ}
    (read : count value = .ok (relation, number)) (compares : OperandForm.ComparesCount value size) :
    size.IsInteger number := by
  cases readsCount value with
  | refused _ refused => exact nomatch read.symm.trans refused
  | malformed _ _ malformed => exact nomatch read.symm.trans malformed
  | sized _ only sized =>
    obtain ⟨found, is, same⟩ := Except.map_eq_ok_iff.mp (sized.symm.trans read)
    cases same
    exact (only size).mp compares ▸ integer_eq_ok_iff.mp is

/-! ## Reports -/

/-- What is read from an operand of a form, and when its test cannot be reported. -/
structure Reads (form : OperandForm) (value : Value) (read : Read Test) : Prop where
  settles : Settles read (form.Admits value) (form.Breaks value)
  fault_iff : ∀ {test}, read = .ok test →
    (test.fault?.isSome = true ↔ form.Unreportable value)

section

variable {form : OperandForm} {value : Value}

/-- A test that says nothing of the operand's size can be reported. -/
theorem reads_of_plain {read : Read α} {make : α → Test}
    (settles : Settles read (form.Admits value) (form.Breaks value))
    (plain : ∀ result, (make result).fault? = none) (fine : ¬ form.Unreportable value) :
    Reads form value (read.map make) where
  settles := settles.map make
  fault_iff ok := by
    obtain ⟨result, -, rfl⟩ := Except.map_eq_ok_iff.mp ok
    simp [plain, fine]

theorem isSome_numberFault? (number : ℤ) :
    (Test.numberFault? number).isSome = true ↔ Number.isOverlong number = true := by
  unfold Test.numberFault?
  split <;> simp_all

theorem isSome_depthFault? (name : Value) :
    (Test.depthFault? name).isSome = true ↔ name.isTooDeep = true := by
  unfold Test.depthFault?
  split <;> simp_all

/-- The number of days of an operand is the one that cannot be reported. -/
theorem overlong_iff {days : ℤ} (is : value.IsInteger days) :
    (∃ other, value.IsInteger other ∧ Number.isOverlong other = true) ↔
      Number.isOverlong days = true :=
  ⟨fun ⟨_, also, long⟩ => is.unique also ▸ long, fun long => ⟨days, is, long⟩⟩

theorem days_eq_ok_iff {days : ℤ} :
    Operand.days value = .ok days ↔ (value.part "days").IsInteger days := by
  rw [days_eq, integer_eq_ok_iff]

theorem days_settles :
    Settles (days value) (∃ days, (value.part "days").IsInteger days)
      (value.part "days").RefusesInteger :=
  days_eq value ▸ integer_settles _ _

theorem reads_days {make : ℤ → Test} (fault : ∀ days, (make days).fault? = Test.numberFault? days) :
    Reads .days value ((days value).map make) where
  settles := days_settles.map make
  fault_iff ok := by
    obtain ⟨days, read, rfl⟩ := Except.map_eq_ok_iff.mp ok
    rw [fault, isSome_numberFault?]
    exact (overlong_iff (days_eq_ok_iff.mp read)).symm

theorem hasDeepProperty_iff :
    value.HasDeepProperty ↔ ((value.field? "property").getD .null).isTooDeep = true := by
  unfold Value.HasDeepProperty
  cases value.field? "property" with
  | none => simp [not_isTooDeep_null]
  | some property => simp

/-- What counts as nothing is not deep. -/
theorem isTruthy_of_isTooDeep (deep : value.isTooDeep = true) : value.isTruthy = true := by
  cases value with
  | list items =>
    cases items with
    | nil => exact absurd deep Bool.false_ne_true
    | cons => rfl
  | record fields =>
    cases fields with
    | nil => exact absurd deep Bool.false_ne_true
    | cons => rfl
  | _ => exact absurd deep Bool.false_ne_true

theorem isTooDeep_expiryProperty :
    (expiryProperty value).isTooDeep = true ↔ value.HasDeepProperty := by
  rw [hasDeepProperty_iff]
  cases value with
  | record fields =>
    change _ ↔ (Fields.getOrNull fields "property").isTooDeep = true
    simp only [expiryProperty]
    split
    · rfl
    · rename_i falsy
      exact ⟨fun deep => absurd deep Bool.false_ne_true,
        fun deep => absurd (isTruthy_of_isTooDeep deep) falsy⟩
  | _ =>
    exact ⟨fun deep => absurd deep Bool.false_ne_true, fun deep => absurd deep Bool.false_ne_true⟩

theorem reads_members {make : Value → List String → Test}
    (fault : ∀ property wanted, (make property wanted).fault? = Test.depthFault? property) :
    Reads .members value (memberTest make value) where
  settles := (membership_settles value).map _
  fault_iff ok := by
    obtain ⟨⟨property, wanted⟩, read, rfl⟩ := Except.map_eq_ok_iff.mp ok
    rw [fault, isSome_depthFault?, property_of_membership read]
    exact hasDeepProperty_iff.symm

theorem reads_expiryDays {make : Value → ℤ → Test}
    (fault : ∀ property days,
      (make property days).fault? = (Test.depthFault? property).or (Test.numberFault? days)) :
    Reads .expiryDays value (expiryTest make value) where
  settles := days_settles.map _
  fault_iff ok := by
    obtain ⟨days, read, rfl⟩ := Except.map_eq_ok_iff.mp ok
    rw [fault, Option.isSome_or, Bool.or_eq_true, isSome_depthFault?, isSome_numberFault?,
      isTooDeep_expiryProperty]
    exact or_congr_right (overlong_iff (days_eq_ok_iff.mp read)).symm

theorem reads_count {make : Relation × ℤ → Test}
    (fault : ∀ counted, (make counted).fault? = Test.numberFault? counted.2) :
    Reads .count value ((count value).map make) where
  settles := (count_settles value).map make
  fault_iff ok := by
    obtain ⟨⟨relation, number⟩, read, rfl⟩ := Except.map_eq_ok_iff.mp ok
    obtain ⟨size, count, compares, is⟩ := ((count_settles value).ok_iff.mp ⟨_, read⟩).1
    rw [fault, isSome_numberFault?]
    refine ⟨fun long => ⟨size, number, compares, isInteger_of_count read compares, long⟩, ?_⟩
    rintro ⟨other, counted, compares, is, long⟩
    exact is.unique (isInteger_of_count read compares) ▸ long

theorem reads_nothing {test : Test} (plain : test.fault? = none) :
    Reads .nothing value (.ok test) where
  settles := settles_ok test trivial id
  fault_iff ok := by
    cases ok
    simp [plain, OperandForm.Unreportable]

theorem reads_text {make : String → Test} (plain : ∀ text, (make text).fault? = none) :
    Reads .text value ((text value).map make) :=
  reads_of_plain (text_settles value) plain id

theorem reads_number (relation : Relation) : Reads .number value (numberTest relation value) :=
  reads_of_plain (number_settles value) (fun _ => rfl) id

theorem reads_date (relation : Relation) : Reads .date value (datedTest relation value) :=
  reads_of_plain (date_settles value) (fun _ => rfl) id

theorem reads_options {make : List String → Test} (plain : ∀ texts, (make texts).fault? = none) :
    Reads .options value ((options value).map make) :=
  reads_of_plain (options_settles value) plain id

theorem reads_expiryDate {make : Value → Date → Test}
    (fault : ∀ property day, (make property day).fault? = Test.depthFault? property) :
    Reads .expiryDate value ((propertyDate value).map (make (expiryProperty value))) where
  settles := (propertyDate_eq value ▸ date_settles _).map _
  fault_iff ok := by
    obtain ⟨day, read, rfl⟩ := Except.map_eq_ok_iff.mp ok
    rw [fault, isSome_depthFault?]
    exact isTooDeep_expiryProperty

theorem reads_expiry : Reads .expiry value (.ok (.anyExpiryToday (expiryProperty value))) where
  settles := settles_ok _ trivial id
  fault_iff ok := by
    cases ok
    rw [Test.fault?, isSome_depthFault?]
    exact isTooDeep_expiryProperty

/-- Equality is that of texts on every kind of attribute but numbers. -/
theorem reads_equality {kind : AttributeKind} {operator : Operator} (relation : Relation)
    (likeness : TextRelation) (form : operator.form kind = if kind = .number then .number else .text)
    (test : Operand.test kind operator value =
      if kind = .number then numberTest relation value else textTest likeness value) :
    Reads (operator.form kind) value (Operand.test kind operator value) := by
  rw [form, test]
  split
  · exact reads_number relation
  · exact reads_text fun _ => rfl

/-- Every operator reads its operand in the form that it documents. -/
theorem test_reads (kind : AttributeKind) (operator : Operator) (value : Value) :
    Reads (operator.form kind) value (Operand.test kind operator value) := by
  cases operator with
  | equals => exact reads_equality .equal .same rfl (by cases kind <;> rfl)
  | notEquals => exact reads_equality .different .different rfl (by cases kind <;> rfl)
  | contains | notContains | startsWith | endsWith | «exists» =>
    cases kind <;> exact reads_text fun _ => rfl
  | isSet | isNotSet | isTrue | isFalse | notEmpty | isEmpty =>
    cases kind <;> exact reads_nothing rfl
  | greaterThan | lessThan | greaterThanOrEqual | lessThanOrEqual =>
    cases kind <;> exact reads_number _
  | between => cases kind <;> exact reads_of_plain (range_settles value) (fun _ => rfl) id
  | expiresInDaysEq | expiresInDaysGt | expiresInDaysGte | expiresInDaysLt | expiresInDaysLte
  | daysAgoEq | daysAgoGt | daysAgoGte | daysAgoLt | daysAgoLte | expiresWithin | expiredSince =>
    cases kind <;> exact reads_days fun _ => rfl
  | equalsDate | before | after => cases kind <;> exact reads_date _
  | isIn | notIn => cases kind <;> exact reads_options fun _ => rfl
  | count => cases kind <;> exact reads_count fun _ => rfl
  | anyOf | allOf | noneOf => cases kind <;> exact reads_members fun _ _ => rfl
  | anyExpiryInDays | anyExpiryWithin | anyExpiryExpiredSince =>
    cases kind <;> exact reads_expiryDays fun _ _ => rfl
  | anyExpiryAfter => cases kind <;> exact reads_expiryDate fun _ _ => rfl
  | anyExpiryToday => cases kind <;> exact reads_expiry

end

end Operand

end Herald
