import Herald.Proofs.Frame
import Herald.Proofs.Upserts

/-! # Targets form a checked map

Whatever calls are made, the targets of a kind stay a map from tenants and external ids to rows, and
what a row holds as data is what the last call that wrote its data was given, all of it permitted by
the schema of that call. `Sound` says both of the tables after some calls; one more call keeps it by
`Call.effect`, which lists all that a call can do.
-/

namespace Herald.Target

variable {σ α : Type}

/-- The world after calls. -/
def afterCalls (world : World σ α) (calls : List Call) : World σ α :=
  calls.foldl (fun world call => call.after world) world

/-- A world with tables in which no target has been written yet. -/
def unwritten (world : World σ α) : World σ α :=
  { world with store := { world.store with created := true, customers := [], services := [] } }

/-- A call puts its data into the row of an id: it returns that row, which is new or held other
data before. -/
def Call.Stores (call : Call) (before : World σ α) (kind : TargetKind) (id : Int) : Prop :=
  call.schema.target = kind ∧ (∃ row, call.answer before = .ok row ∧ row.id = id) ∧
    ∀ old ∈ call.table before, old.id = id →
      (Value.record call.data).same (.record old.data) = false

/-- A call is the last one of a sequence that has put its data into a row. -/
inductive LastStores (world : World σ α) (kind : TargetKind) (id : Int) (writer : Call) :
    List Call → Prop
  | now {calls : List Call} (stores : writer.Stores (afterCalls world calls) kind id) :
      LastStores world kind id writer (calls ++ [writer])
  | before {calls : List Call} {later : Call} (last : LastStores world kind id writer calls)
      (idle : ¬ later.Stores (afterCalls world calls) kind id) :
      LastStores world kind id writer (calls ++ [later])

/-- The data of a row are what the last call that wrote them was given, and that call's schema
permits them. -/
def Backed (world : World σ α) (calls : List Call) (kind : TargetKind) (row : Target) : Prop :=
  ∃ writer, LastStores world kind row.id writer calls ∧ writer.schema.tenant = row.tenant ∧
    row.data = writer.data ∧ writer.schema.Permits row.data

/-- Tables are maps, and the data in them come from calls. -/
structure Sound (world : World σ α) (calls : List Call) (now : World σ α) : Prop where
  created : now.store.created = true
  keyed : ∀ kind, Keyed (now.store.targets kind)
  backed : ∀ kind, ∀ row ∈ now.store.targets kind, Backed world calls kind row

section Snoc

variable {world : World σ α} {calls : List Call} {call : Call} {kind : TargetKind}
  {row other : Target}

theorem afterCalls_snoc (world : World σ α) (calls : List Call) (call : Call) :
    afterCalls world (calls ++ [call]) = call.after (afterCalls world calls) := by
  rw [afterCalls, List.foldl_append]
  rfl

/-- A call that puts no data into a row leaves it backed. -/
theorem Backed.snoc (backed : Backed world calls kind row)
    (idle : ¬ call.Stores (afterCalls world calls) kind row.id)
    (owner : (other.id, other.tenant) = (row.id, row.tenant)) (data : other.data = row.data) :
    Backed world (calls ++ [call]) kind other := by
  obtain ⟨writer, last, tenant, given, permits⟩ := backed
  obtain ⟨id, own⟩ := Prod.mk.inj owner
  refine ⟨writer, ?_, tenant.trans own.symm, data.trans given, data ▸ permits⟩
  exact id ▸ .before last idle

/-- A call puts data into the row that it returns only. -/
theorem not_stores_of_ne (answers : call.answer (afterCalls world calls) = .ok row)
    (differs : other.id ≠ row.id) : ¬ call.Stores (afterCalls world calls) kind other.id := by
  rintro ⟨-, ⟨told, tells, same⟩, -⟩
  cases answers.symm.trans tells
  exact differs same.symm

/-- Tables stay as they should be if the one that a call writes does. -/
theorem Sound.withTable (sound : Sound world calls (afterCalls world calls)) {rows : List Target}
    (keyed : Keyed rows)
    (backed : ∀ row ∈ rows, Backed world (calls ++ [call]) call.schema.target row) :
    Sound world (calls ++ [call])
      (call.withTable (call.start (afterCalls world calls)) rows) where
  created := by
    rw [← sound.created]
    unfold Call.withTable
    cases call.schema.target <;> rfl
  keyed := by
    intro kind
    unfold Call.withTable
    rw [targets_withTargets]
    split
    · exact keyed
    · exact sound.keyed kind
  backed := by
    intro kind row member
    unfold Call.withTable at member
    rw [targets_withTargets] at member
    split at member
    · rename_i own
      exact own ▸ backed row member
    · rename_i foreign
      exact (sound.backed kind row member).snoc (fun stores => foreign stores.1.symm) rfl rfl

/-- The row that a call changes keeps its data and their writer, or has its data from the call. -/
theorem Sound.backed_of_changes (sound : Sound world calls (afterCalls world calls))
    (told : call.answer (afterCalls world calls) = .ok row)
    (permits : call.schema.Permits call.data) (known : call.Knows other)
    (member : other ∈ call.table (afterCalls world calls)) (changes : call.Changes other row) :
    Backed world (calls ++ [call]) call.schema.target row := by
  obtain ⟨id, tenant⟩ := Prod.mk.inj changes.owner
  by_cases same : (Value.record call.data).same (.record other.data) = true
  · have idle : ¬ call.Stores (afterCalls world calls) call.schema.target other.id := by
      rintro ⟨-, -, differs⟩
      rw [differs other member rfl] at same
      cases same
    exact (sound.backed _ other member).snoc idle changes.owner (changes.data.trans (if_pos same))
  · have data : row.data = call.data := changes.data.trans (if_neg same)
    obtain ⟨name, named, owner, external⟩ := known
    refine ⟨call, .now ⟨rfl, ⟨row, told, rfl⟩, ?_⟩, (tenant.trans owner).symm, data,
      data ▸ permits⟩
    -- No other row has the id, so nothing but the old data could have been the same.
    intro old among equal
    rw [(sound.keyed _).eq_of_id among member (equal.trans id)]
    exact Bool.not_eq_true _ ▸ same

/-- One more call keeps the tables as they should be, whatever it does. -/
theorem Sound.snoc (sound : Sound world calls (afterCalls world calls)) (call : Call) :
    Sound world (calls ++ [call]) (afterCalls world (calls ++ [call])) := by
  rw [afterCalls_snoc]
  have keyed := sound.keyed call.schema.target
  have backed := sound.backed call.schema.target
  have effect := call.effect (afterCalls world calls) keyed
  generalize told : call.answer (afterCalls world calls) = result at effect
  generalize call.after (afterCalls world calls) = later at effect ⊢
  cases effect with
  | fails failure =>
    refine ⟨sound.created, sound.keyed, fun kind row member => ?_⟩
    refine (sound.backed kind row member).snoc ?_ rfl rfl
    rintro ⟨-, ⟨row, tells, -⟩, -⟩
    cases told.symm.trans tells
  | @changes front back old row fits known there changes =>
    have table : call.table (afterCalls world calls) = front ++ old :: back := there
    have replaced : Keyed (front ++ row :: back) :=
      Keyed.replace (table ▸ keyed) changes.owner changes.external
    refine sound.withTable replaced fun other among => ?_
    by_cases own : other = row
    · have member : old ∈ call.table (afterCalls world calls) :=
        table ▸ List.mem_append_right _ (List.mem_cons_self ..)
      exact own ▸ sound.backed_of_changes told fits.permits known member changes
    · have here : row ∈ front ++ row :: back := List.mem_append_right _ (List.mem_cons_self ..)
      have before : other ∈ call.table (afterCalls world calls) := by
        rw [table, List.mem_append, List.mem_cons]
        rw [List.mem_append, List.mem_cons] at among
        exact among.imp_right fun rest => .inr (rest.resolve_left own)
      refine (backed other before).snoc (not_stores_of_ne told fun same => ?_) rfl rfl
      exact own (replaced.eq_of_id among here same)
  | @adds row fits unknown makes =>
    obtain ⟨id, tenant⟩ := Prod.mk.inj makes.owner
    have fresh : ∀ other ∈ call.table (afterCalls world calls), other.id ≠ row.id :=
      fun other among => id ▸ Int.ne_of_lt (lt_nextId (List.mem_map_of_mem among))
    have appended : Keyed (call.table (afterCalls world calls) ++ [row]) := by
      refine keyed.append id fun name external other among own held => ?_
      exact unknown other among ⟨name, external ▸ makes.external, own.trans tenant, held⟩
    refine sound.withTable appended fun other among => ?_
    rcases List.mem_append.mp among with among | last
    · exact (backed other among).snoc (not_stores_of_ne told (fresh other among)) rfl rfl
    · obtain rfl := List.mem_singleton.mp last
      refine ⟨call, .now ⟨rfl, ⟨other, told, rfl⟩, ?_⟩, tenant.symm, makes.data,
        makes.data ▸ fits.permits⟩
      exact fun old among same => absurd same (fresh old among)

end Snoc

theorem sound_afterCalls (world : World σ α) (calls : List Call) :
    Sound (unwritten world) calls (afterCalls (unwritten world) calls) := by
  induction calls using List.reverseRecOn with
  | nil =>
    refine ⟨rfl, fun kind => ?_, fun kind row member => ?_⟩
    · cases kind <;> exact ⟨ascending_nil, List.nodup_nil⟩
    · cases kind <;> cases member
  | append_singleton calls call sound => exact sound.snoc call

/-! ## One more call -/

theorem not_suits_null {name : String} (time : name ∈ ["created_at", "updated_at"]) :
    ¬ Suits name .null := by
  unfold Suits
  decide +revert

/-- What a proper call gives for a column is in the row that it returns, unless the same was there
before. -/
theorem Call.Proper.holds {call : Call} (proper : call.Proper) {before after : World σ α}
    {row : Target} (effect : call.Effect (call.start before) (.ok row) after) :
    ∀ field ∈ call.fields, row.held field.1 = field.2 ∨
      ∃ old ∈ call.table before, call.Knows old ∧ field.2.same (old.held field.1) = true := by
  intro field member
  obtain ⟨column, there, name, suits⟩ := proper.fields field member
  have given : (column.name, field.2) ∈ call.given := name ▸ List.mem_append_left _ member
  rw [← name]
  cases effect with
  | @changes front back old row fits known table changes =>
    by_cases same : field.2.same (old.held column.name) = true
    · exact .inr ⟨old, table ▸ List.mem_append_right _ (List.mem_cons_self ..), known, same⟩
    · have takes := changes.taken column there field.2 given (Bool.not_eq_true _ ▸ same)
      exact .inl (takes.unique (takes_of_suits there suits))
  | adds fits unknown makes =>
    refine .inl ((makes.taken column there field.2 given ?_).unique (takes_of_suits there suits))
    rintro ⟨time, null⟩
    rw [null] at suits
    exact not_suits_null time suits

namespace Sample

/-- Customers of a tenant with one attribute of a kind. -/
def flags (kind : AttributeKind) : AttributeSchema :=
  ⟨"t", .customer, TargetKind.customer.builtins ++
    [⟨"flag", kind, false, none, none, none, none, false⟩]⟩

/-- A call that writes the attribute of the same customer. -/
def flag (kind : AttributeKind) (value : Value) : Call :=
  ⟨Herald.Sample.dawn, flags kind, [("flag", value)], .text "c-1", [("name", .text "Ann")],
    List.nodup_singleton _⟩

end Sample

end Herald.Target
