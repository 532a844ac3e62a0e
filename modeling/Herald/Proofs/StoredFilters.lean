import Herald.Proofs.Compilation
import Herald.Proofs.History
import Herald.Proofs.Report
import Herald.Proofs.Table

/-! # Stored filters

A campaign keeps its filter as a value in its row, in one spelling, and a pass reads the filter from
there. A filter of plain data survives that: it is read back as it was, so what the row holds
compiles to the very outcome of what was submitted. Only a filter with an operand that is nested too
deeply cannot be kept, and then no campaign is made of it.
-/

namespace Herald

variable {α β : Type}

/-! ## Plain data -/

namespace Value

mutual

/-- Whether a value is plain data: nothing in it is a decimal, a date or a moment, and its doubles
are finite. -/
def isPlain : Value → Bool
  | .float number => number.isFinite
  | .decimal _ => false
  | .date _ => false
  | .moment _ => false
  | .list items => arePlain items
  | .record fields => havePlain fields
  | _ => true

/-- Whether all items of a list are plain data. -/
def arePlain : List Value → Bool
  | [] => true
  | item :: rest => isPlain item && arePlain rest

/-- Whether all fields of a record hold plain data. -/
def havePlain : List (String × Value) → Bool
  | [] => true
  | (_, value) :: rest => isPlain value && havePlain rest

end

theorem arePlain_iff {items : List Value} :
    arePlain items = true ↔ ∀ item ∈ items, item.isPlain = true := by
  induction items with
  | nil => simp [arePlain]
  | cons item rest ih => simp [arePlain, ih]

theorem havePlain_iff {fields : Fields} :
    havePlain fields = true ↔ ∀ field ∈ fields, field.2.isPlain = true := by
  induction fields with
  | nil => simp [havePlain]
  | cons field rest ih =>
    obtain ⟨name, value⟩ := field
    simp [havePlain, ih]

end Value

namespace Fields

variable {fields : Fields} {name : String} {value : Value}

theorem mem_of_get? (found : fields.get? name = some value) :
    ∃ field ∈ fields, field.2 = value := by
  unfold get? at found
  split at found
  · rename_i field there
    cases found
    exact ⟨field, List.mem_of_find?_eq_some there, rfl⟩
  · cases found

theorem mem_put {field : String × Value} (member : field ∈ fields.put name value) :
    field ∈ fields ∨ field = (name, value) := by
  induction fields with
  | nil => exact .inr (List.mem_singleton.mp member)
  | cons first rest ih =>
    unfold put at member
    split at member
    · rcases List.mem_cons.mp member with same | member
      · exact .inr same
      · exact .inl (List.mem_cons_of_mem _ member)
    · rcases List.mem_cons.mp member with rfl | member
      · exact .inl (List.mem_cons_self ..)
      · exact (ih member).imp_left (List.mem_cons_of_mem _)

theorem isPlain_get? (plain : Value.havePlain fields = true)
    (found : fields.get? name = some value) : value.isPlain = true := by
  obtain ⟨field, member, rfl⟩ := mem_of_get? found
  exact Value.havePlain_iff.mp plain field member

end Fields

/-! ## Reading what is stored -/

namespace Filter

mutual

/-- Plain data is stored as it is. -/
theorem storedValue_eq : ∀ value : Value, value.isPlain = true → storedValue value = value
  | .float _, plain => if_pos plain
  | .list items, plain => congrArg Value.list (storedItems_eq items plain)
  | .record fields, plain => congrArg Value.record (storedFields_eq fields plain)
  | .null, _ => rfl
  | .bool _, _ => rfl
  | .int _, _ => rfl
  | .text _, _ => rfl

theorem storedItems_eq : ∀ items : List Value, Value.arePlain items = true →
    storedItems items = items
  | [], _ => rfl
  | item :: rest, plain => by
    obtain ⟨first, others⟩ := Bool.and_eq_true_iff.mp plain
    rw [storedItems, storedValue_eq item first, storedItems_eq rest others]

theorem storedFields_eq : ∀ fields : Fields, Value.havePlain fields = true →
    storedFields fields = fields
  | [], _ => rfl
  | (name, value) :: rest, plain => by
    obtain ⟨first, others⟩ := Bool.and_eq_true_iff.mp plain
    rw [storedFields, storedValue_eq value first, storedFields_eq rest others]

end

/-- A filter whose operands are plain data. -/
def IsPlain (filter : Filter) : Prop :=
  ∀ condition ∈ filter.conditions, condition.value.isPlain = true

end Filter

namespace Checked

/-- What was read of a list was read of one of its items. -/
theorem exists_item_of_items {check : β → Checked α} {items : List β} {found : List α}
    {position : Nat} (valid : Checked.items check position items = .valid found) {value : α}
    (member : value ∈ found) : ∃ item ∈ items, check item = .valid value := by
  induction items generalizing position found with
  | nil =>
    cases valid
    cases member
  | cons item rest ih =>
    obtain ⟨_, others, begun, read, rfl⟩ := seq_valid valid
    obtain ⟨first, checked, rfl⟩ := map_valid begun
    rcases List.mem_cons.mp member with rfl | member
    · exact ⟨item, List.mem_cons_self .., under_valid checked⟩
    · obtain ⟨other, among, found⟩ := ih read member
      exact ⟨other, List.mem_cons_of_mem _ among, found⟩

/-- A list is read item by item. -/
theorem items_map {check : β → Checked α} {write : α → β} {values : List α}
    (reads : ∀ value ∈ values, check (write value) = .valid value) (position : Nat) :
    Checked.items check position (values.map write) = .valid values := by
  induction values generalizing position with
  | nil => rfl
  | cons value rest ih =>
    rw [List.map_cons, Checked.items, reads value (List.mem_cons_self ..),
      ih fun other member => reads other (List.mem_cons_of_mem _ member)]
    rfl

end Checked

namespace Condition

/-- A condition of plain data has a plain operand. -/
theorem isPlain_ofForm {fields : Fields} {condition : Condition}
    (plain : Value.havePlain fields = true) (valid : ofForm fields = .valid condition) :
    condition.value.isPlain = true := by
  have modern : Value.havePlain (modernize fields) = true := by
    rw [Value.havePlain_iff] at plain ⊢
    unfold modernize
    split
    · rename_i key _ old
      intro field member
      rcases Fields.mem_put member with member | rfl
      · exact plain field (List.mem_filter.mp member).1
      · exact Fields.isPlain_get? (Value.havePlain_iff.mpr plain) old
    · exact plain
  obtain ⟨_, operand, named, read, rfl⟩ := Checked.seq_valid valid
  obtain ⟨_, operator, keyed, _, rfl⟩ := Checked.seq_valid named
  obtain ⟨key, _, rfl⟩ := Checked.map_valid keyed
  cases read
  show ((modernize fields).getOrNull "value").isPlain = true
  rw [Fields.getOrNull]
  cases found : (modernize fields).get? "value" with
  | none => rfl
  | some value => exact Fields.isPlain_get? modern found

/-- A condition is read back as it was stored. -/
theorem ofForm_toValue (condition : Condition) :
    Form.record ofForm condition.toValue = .valid condition := rfl

end Condition

namespace Filter

theorem isPlain_ofValue {raw : Value} {filter : Filter} (plain : raw.isPlain = true)
    (valid : ofValue raw = .valid filter) : filter.IsPlain := by
  cases raw with
  | record fields =>
    obtain ⟨_, conditions, based, read, rfl⟩ := Checked.seq_valid valid
    obtain ⟨logic, _, rfl⟩ := Checked.map_valid based
    intro condition member
    unfold Form.withDefault at read
    split at read
    · rename_i list found
      have whole := Fields.isPlain_get? plain found
      cases list with
      | list items =>
        obtain ⟨item, among, checked⟩ :=
          Checked.exists_item_of_items (Checked.under_valid read) member
        have plain := Value.arePlain_iff.mp whole item among
        cases item with
        | record fields => exact Condition.isPlain_ofForm plain checked
        | _ => cases checked
      | _ => cases Checked.under_valid read
    · cases read
      cases member
  | _ => cases valid

/-- A plain filter is read back as it was stored. -/
theorem ofValue_toValue {filter : Filter} (plain : filter.IsPlain) :
    ofValue filter.toValue = .valid filter := by
  have stored : filter.conditions.map (fun condition =>
      { condition with value := storedValue condition.value }.toValue) =
        filter.conditions.map Condition.toValue :=
    List.map_congr_left fun condition member => by rw [storedValue_eq _ (plain condition member)]
  have conditions : Form.list (Form.record Condition.ofForm)
      (.list (filter.conditions.map Condition.toValue)) = .valid filter.conditions :=
    Checked.items_map (fun condition _ => condition.ofForm_toValue) 0
  have logic : readLogic (.text filter.logic.name) = .valid filter.logic := by
    cases filter.logic <;> rfl
  rw [toValue, stored]
  change _ <$> (readLogic _).under _ <*> (Form.list _ _).under _ = _
  rw [logic, conditions]
  rfl

/-- What counts as nothing is no filter but the empty one. -/
theorem ofRaw_eq {raw : Value} {filter : Filter} (valid : ofValue raw = .valid filter) :
    ofRaw raw = .valid filter := by
  unfold ofRaw
  split
  · exact valid
  · rename_i falsy
    cases raw with
    | record fields =>
      cases fields with
      | nil => exact valid
      | cons field rest => exact absurd rfl falsy
    | _ => cases valid

end Filter

/-! ## The row of a campaign -/

namespace Store

/-- What is made at the end of the table is found under its new id. -/
theorem campaign?_made (store : Store α) {made : Campaign α}
    (new : made.id = nextId (store.campaigns.map Campaign.id)) :
    { store with campaigns := store.campaigns ++ [made] }.campaign? made.id = some made := by
  have none : store.campaigns.find? (fun campaign => campaign.id == made.id) = none := by
    rw [List.find?_eq_none]
    intro campaign member same
    have before := lt_nextId (List.mem_map_of_mem (f := Campaign.id) member)
    rw [← new, beq_iff_eq.mp same] at before
    exact absurd before (Int.lt_irrefl _)
  rw [campaign?, List.find?_append, none, Option.none_or]
  exact List.find?_cons_of_pos BEq.rfl

end Store

namespace Lifecycle

variable {σ : Type} [Amount α]

/-- A draft whose filter is not too deep and whose numbers fit their columns becomes a row, with its
filter in it. -/
theorem create_made {world : World σ α} (created : world.store.created = true) (tenant : String)
    {draft : Draft} (shallow : draft.filter.isTooDeep = false)
    (days : Cell.fits draft.cooldownDays = true)
    (minutes : Cell.fits (draft.checkMinutes.getD 0) = true) :
    Ends (create tenant draft) world fun result after => ∃ campaign, result = .ok campaign ∧
      after.store.campaign? campaign.id = some campaign ∧
        campaign.filter = draft.filter.toValue := by
  rw [create, if_neg (by rw [shallow]; exact Bool.false_ne_true), ends_bind, ends_clock]
  dsimp only
  rw [ends_commit created]
  simp only [Cell.fitted, days, minutes, if_true, bind, Except.bind, pure, Except.pure]
  exact ⟨_, rfl, Store.campaign?_made world.store rfl, rfl⟩

end Lifecycle

namespace Sample

/-- A filter in an older spelling, with its logic in small letters. -/
def olderFilter : Value :=
  .record [("logic", .text "or"), ("conditions", .list [
    .record [("field", .text "tags"), ("operator", .text "is_empty")],
    .record [("field", .text "tags"), ("operator", .text "any"),
      ("value", .record [("values", .list [.text "new", .text "vip"])])]])]

/-- The filter that is read of it. -/
def newerFilter : Filter :=
  ⟨.any, [⟨"tags", "is_empty", .null⟩,
    ⟨"tags", "any", .record [("values", .list [.text "new", .text "vip"])]⟩]⟩

end Sample

namespace Sample

/-- An empty list in some number of lists. -/
def nested : Nat → Value
  | 0 => .list []
  | lists + 1 => .list [nested lists]

theorem isPlain_nested (lists : Nat) : (nested lists).isPlain = true := by
  induction lists with
  | zero => rfl
  | succ lists ih => simp [nested, Value.isPlain, Value.arePlain, ih]

theorem depth_nested (lists : Nat) : (nested lists).depth = lists + 1 := by
  induction lists with
  | zero => rfl
  | succ lists ih => simp [nested, Value.depth, Value.itemsDepth, ih]

/-- A condition that asks for nothing of its operand, which is deep. -/
def deepCondition : Condition := ⟨"tags", "is_empty", nested 255⟩

/-- A filter with that condition. -/
def deepFilter : Value := .record [("conditions", .list [deepCondition.toValue])]

end Sample

end Herald
