import Herald.Proofs.Listing
import Herald.Proofs.History

/-! # Streams of targets

A stream hands out the matching targets of a tenant one by one, up to a limit, while it reads the
table in batches. It reads finitely many of them, the batches together hold the tenant's targets,
and whoever takes targets from the stream is served the same ones as from the list of the matching
targets, whatever the size of a batch and whatever happens to other tables meanwhile.
-/

namespace Herald

namespace Audience

variable {σ α β : Type} {audience : Audience} {size : Int} {store : Store α}

/-! ## The batches of a stream -/

/-- Behind an id a stream reads some batches, one after the other, and then finds nothing more. -/
inductive Reads (audience : Audience) (size : Int) (store : Store α) :
    Int → List (List Target) → Prop
  | done {id : Int} (nothing : audience.batch size id store = .ok []) :
    Reads audience size store id []
  | next {id : Int} {targets : List Target} {last : Target} {rest : List (List Target)}
    (read : audience.batch size id store = .ok targets) (ends : targets.getLast? = some last)
    (onward : Reads audience size store last.id rest) :
    Reads audience size store id (targets :: rest)

/-- Batches with something in them come to an end, and together they are what there is to read. -/
theorem exists_reads (positive : 1 ≤ size) (fits : Cell.fits size = true)
    (ascending : Ascending ((store.targets audience.kind).map Target.id)) (id : Int) :
    ∃ batches, Reads audience size store id batches ∧
      batches.flatten = audience.after id store ∧
        batches.length ≤ (audience.after id store).length := by
  -- Each batch leaves fewer targets behind its last id.
  induction left : (audience.after id store).length using Nat.strongRecOn generalizing id with
  | ind count ih =>
    have read : audience.batch size id store = .ok ((audience.after id store).take size.toNat) := by
      rw [batch_eq fits, if_neg (by omega)]
    cases last? : ((audience.after id store).take size.toNat).getLast? with
    | none =>
      have empty : audience.after id store = [] := by
        rcases List.take_eq_nil_iff.mp (List.getLast?_eq_none_iff.mp last?) with zero | empty
        · omega
        · exact empty
      rw [empty, List.take_nil] at read
      exact ⟨[], .done read, empty.symm, Nat.zero_le _⟩
    | some last =>
      have split := (List.take_append_drop size.toNat (audience.after id store)).symm
      have behind := after_last ascending split last?
      have lengths := congrArg List.length split
      have some : 0 < ((audience.after id store).take size.toNat).length :=
        List.length_pos_of_mem (List.mem_of_getLast? last?)
      rw [List.length_append] at lengths
      obtain ⟨batches, reads, together, few⟩ :=
        ih _ (by rw [behind, ← left]; omega) last.id rfl
      refine ⟨_ :: batches, .next read last? reads, ?_, ?_⟩
      · rw [List.flatten_cons, together, behind, ← split]
      · rw [behind] at few
        rw [List.length_cons, ← left]
        omega

/-! ## What is handed out -/

/-- The first ones of some targets, as many as a limit allows. -/
def cut (limit : Option Int) (targets : List TargetRecord) : List TargetRecord :=
  match limit with
  | none => targets
  | some most => targets.take most.toNat

/-- Visit some targets, one after the other, as long as the visitor wants to. -/
def visitEach (visit : β → TargetRecord → Steady σ α (Visit β)) :
    List TargetRecord → β → Steady σ α (β × Option Failure)
  | [], found => return (found, none)
  | target :: rest, found => do
    match ← visit found target with
    | .next found => visitEach visit rest found
    | .stop found => return (found, none)
    | .giveUp found failure => return (found, some failure)

/-- The predicate says of a target whether it matches. -/
def Decides (audience : Audience) (target : TargetRecord) : Prop :=
  ∃ matched, audience.predicate.holds target.attributes audience.today = .ok matched

theorem selects_iff {target : TargetRecord} : audience.selects target = true ↔
    audience.predicate.holds target.attributes audience.today = .ok true := by
  unfold selects
  cases audience.predicate.holds target.attributes audience.today with
  | ok matched => simp
  | error refusal => simp

/-- The matching targets are those of the tenant of which the predicate holds. -/
theorem mem_selected (ascending : Ascending ((store.targets audience.kind).map Target.id))
    {record : TargetRecord} : record ∈ audience.selected store ↔
      ∃ target ∈ store.targets audience.kind, target.tenant = audience.tenant ∧
        target.record audience.kind audience.today = record ∧
          audience.predicate.holds record.attributes audience.today = .ok true := by
  have positive : ∀ target ∈ store.targets audience.kind, 0 < target.id := fun target member =>
    List.rel_of_pairwise_cons ascending (List.mem_map_of_mem member)
  simp only [selected, records, after, List.mem_filter, List.mem_map, selects_iff,
    Bool.and_eq_true, beq_iff_eq, decide_eq_true_eq]
  constructor
  · rintro ⟨⟨target, ⟨member, tenant, -⟩, same⟩, holds⟩
    exact ⟨target, member, tenant, same, holds⟩
  · rintro ⟨target, member, tenant, same, holds⟩
    exact ⟨⟨target, ⟨member, tenant, positive target member⟩, same⟩, holds⟩

/-- The matching targets stand in the order of their ids. -/
theorem selected_increasing (ascending : Ascending ((store.targets audience.kind).map Target.id)) :
    ((audience.selected store).map TargetRecord.id).Pairwise (· < ·) := by
  have sorted : ((audience.records 0 store).map TargetRecord.id).Pairwise (· < ·) := by
    rw [records, List.map_map, List.pairwise_map]
    exact after_ascending 0 ascending
  exact sorted.sublist (List.filter_sublist.map _)

section Walks

variable {limit : Option Int} {visit : β → TargetRecord → Steady σ α (Visit β)}

/-- A limit that leaves room behind some visits leaves room for one more target, and for one less
behind it. -/
theorem cut_cons {visited : Nat} (room : ∀ most ∈ limit, (visited : Int) < most)
    (target : TargetRecord) (rest : List TargetRecord) :
    cut (limit.map (· - visited)) (target :: rest) =
      target :: cut (limit.map (· - ((visited + 1 : Nat) : Int))) rest := by
  cases limit with
  | none => rfl
  | some most =>
    have less : (most - visited).toNat = (most - ((visited + 1 : Nat) : Int)).toNat + 1 := by
      have := room most rfl
      omega
    simp only [Option.map_some, cut, less, List.take_succ_cons]

/-- Walking over targets comes to visiting those that match, as many as the limit still allows. -/
theorem walkRecords_leads_visitEach {after : β × Option Failure → World σ α → Prop}
    (targets : List TargetRecord) (decides : ∀ target ∈ targets, audience.Decides target)
    (visited : Nat) (room : ∀ most ∈ limit, (visited : Int) < most) (found : β)
    (world : World σ α) :
    (Leads (audience.walkRecords limit visit targets found visited) world
        fun walked => after walked.result) ↔
      Leads (visitEach visit (cut (limit.map (· - visited)) (targets.filter audience.selects))
        found) world after := by
  induction targets generalizing visited found world with
  | nil =>
    have none : cut (limit.map (· - (visited : Int))) [] = [] := by
      cases limit <;> simp [cut]
    rw [List.filter_nil, none]
    exact Iff.rfl
  | cons target rest ih =>
    have others := fun other member => decides other (List.mem_cons_of_mem _ member)
    obtain ⟨matched, holds⟩ := decides target (List.mem_cons_self ..)
    rw [walkRecords, holds]
    cases matched with
    | false =>
      rw [List.filter_cons_of_neg (by simp [selects_iff, holds])]
      exact ih others visited room found world
    | true =>
      rw [List.filter_cons_of_pos (selects_iff.mpr holds), cut_cons room, visitEach]
      dsimp only
      rw [leads_bind, leads_bind]
      refine Leads.congr (leads_true _ _) fun visit middle _ => ?_
      cases visit with
      | stop found => exact Iff.rfl
      | giveUp found failure => exact Iff.rfl
      | next found =>
        dsimp only
        split
        · -- The limit is reached, so nothing more is allowed.
          rename_i reached
          obtain ⟨most, rfl, reached⟩ := (Option.any_eq_true _ _).mp reached
          have reached : most ≤ ((visited + 1 : Nat) : Int) := of_decide_eq_true reached
          have full : (most - ((visited + 1 : Nat) : Int)).toNat = 0 := by omega
          rw [Option.map_some, cut, full, List.take_zero]
          exact Iff.rfl
        · rename_i below
          refine ih others (visited + 1) ?_ found middle
          rintro most rfl
          simpa using below

variable {world : World σ α} {start : β}

/-- A walk serves a visitor that leaves the table alone the matching targets, as many as the limit
allows. -/
theorem walk_leads_visitEach (positive : 1 ≤ size) (fits : Cell.fits size = true)
    (created : world.store.created = true)
    (ascending : Ascending ((world.store.targets audience.kind).map Target.id))
    (decides : ∀ target ∈ audience.records 0 world.store, audience.Decides target)
    (keeps : ∀ found target, Moves (Agree (World.table audience.kind)) (visit found target))
    {after : β × Option Failure → World σ α → Prop} :
    Leads (audience.walk size limit visit start) world after ↔
      Leads (visitEach visit (cut limit (audience.selected world.store)) start) world after := by
  cases some : limit.any fun most => decide (most ≤ 0) with
  | true =>
    obtain ⟨most, rfl, none⟩ := (Option.any_eq_true _ _).mp some
    have none : most ≤ 0 := of_decide_eq_true none
    rw [walk, some, cut, Int.toNat_of_nonpos none, List.take_zero]
    exact Iff.rfl
  | false =>
    have room : ∀ most ∈ limit, ((0 : Nat) : Int) < most := by
      rintro most rfl
      simpa using some
    have whole : limit.map (· - ((0 : Nat) : Int)) = limit := by
      cases limit <;> simp
    rw [walk_leads_iff fits (by omega) keeps created ascending some,
      walkRecords_leads_visitEach _ decides 0 room, whole, selected]

end Walks

/-! ## Folds -/

theorem leads_visitEach_pure {step : β → TargetRecord → β} (targets : List TargetRecord) (start : β)
    {world : World σ α} {after : β × Option Failure → World σ α → Prop} :
    Leads (visitEach (fun found target => return .next (step found target)) targets start) world
        after ↔ after (targets.foldl step start, none) world := by
  induction targets generalizing start with
  | nil => exact Iff.rfl
  | cons target rest ih =>
    rw [visitEach, leads_bind, leads_pure]
    exact ih (step start target)

theorem foldl_snoc (targets done : List TargetRecord) :
    targets.foldl (fun found target => found ++ [target]) done = done ++ targets := by
  induction targets generalizing done with
  | nil => simp
  | cons target rest ih => simp [ih]

theorem foldl_count (targets : List TargetRecord) (count : Nat) :
    targets.foldl (fun count _ => count + 1) count = count + targets.length := by
  induction targets generalizing count with
  | nil => rfl
  | cons target rest ih =>
    rw [List.foldl_cons, ih, List.length_cons]
    omega

section Folds

variable {world : World σ α} {limit : Option Int} (positive : 1 ≤ size)
  (fits : Cell.fits size = true) (created : world.store.created = true)
  (ascending : Ascending ((world.store.targets audience.kind).map Target.id))
  (decides : ∀ target ∈ audience.records 0 world.store, audience.Decides target)

include positive fits created ascending decides

/-- A fold over a stream is the fold over the matching targets. -/
theorem fold_ends {step : β → TargetRecord → β} {start : β} :
    Ends (audience.fold size limit step start) world fun result after => after = world ∧
      result = .ok ((cut limit (audience.selected world.store)).foldl step start) := by
  rw [fold, ends_bind, ends_lift, walk_leads_visitEach positive fits created ascending decides
    fun _ _ => moves_pure, leads_visitEach_pure]
  exact ⟨rfl, rfl⟩

theorem matching_ends : Ends (audience.matching size limit) world fun result after =>
    after = world ∧ result = .ok (cut limit (audience.selected world.store)) := by
  refine (fold_ends positive fits created ascending decides).mono ?_
  rintro _ _ ⟨rfl, rfl⟩
  rw [foldl_snoc, List.nil_append]
  exact ⟨rfl, rfl⟩

theorem count_ends_length : Ends (audience.count size) world fun result after =>
    after = world ∧ result = .ok (audience.selected world.store).length := by
  refine (fold_ends positive fits created ascending decides).mono ?_
  rintro _ _ ⟨rfl, rfl⟩
  rw [foldl_count, Nat.zero_add]
  exact ⟨rfl, rfl⟩

end Folds

/-- A stream is exact. It reads finitely many batches, which together hold the targets of the
tenant; it hands out the matching ones in the order of their ids, up to the limit; whoever takes
them and leaves the table alone is served as from a list of them; and counting finds their number.
No size of a batch that the database takes makes a difference. -/
theorem streams_exactly {world : World σ α} (positive : 1 ≤ size) (fits : size ≤ Cell.largest)
    (created : world.store.created = true)
    (ascending : Ascending ((world.store.targets audience.kind).map Target.id))
    (decides : ∀ target ∈ audience.records 0 world.store, audience.Decides target) :
    (∃ batches, Reads audience size world.store 0 batches ∧
      batches.flatten = audience.after 0 world.store) ∧
    ((audience.selected world.store).map TargetRecord.id).Pairwise (· < ·) ∧
    (∀ record, record ∈ audience.selected world.store ↔
      ∃ target ∈ world.store.targets audience.kind, target.tenant = audience.tenant ∧
        target.record audience.kind audience.today = record ∧
          audience.predicate.holds record.attributes audience.today = .ok true) ∧
    (∀ limit, Ends (audience.matching size limit) world fun result after => after = world ∧
      result = .ok (cut limit (audience.selected world.store))) ∧
    (∀ (β : Type) (limit : Option Int) (visit : β → TargetRecord → Steady σ α (Visit β))
      (start : β),
      (∀ found target, Moves (Agree (World.table audience.kind)) (visit found target)) →
        ∀ after, Leads (audience.walk size limit visit start) world after ↔
          Leads (visitEach visit (cut limit (audience.selected world.store)) start) world after) ∧
    Ends (audience.count size) world fun result after => after = world ∧
      result = .ok (audience.selected world.store).length := by
  have fits : Cell.fits size = true := by
    rw [Cell.fits, Bool.and_eq_true, decide_eq_true_eq, decide_eq_true_eq]
    unfold Cell.largest at fits ⊢
    omega
  obtain ⟨batches, reads, together, -⟩ := exists_reads positive fits ascending 0
  refine ⟨⟨batches, reads, together⟩, selected_increasing ascending, fun record =>
    mem_selected ascending, fun limit => matching_ends positive fits created ascending decides, ?_,
    count_ends_length positive fits created ascending decides⟩
  intro β limit visit start keeps after
  exact walk_leads_visitEach positive fits created ascending decides keeps

end Audience

namespace Sample

/-- Two customers of a tenant, and one of another tenant between them. -/
def mixed : World Unit Binary64 :=
  world [.upsert ⟨"t", .customer, []⟩ [] .null [("name", .text "Ann")],
    .upsert ⟨"u", .customer, []⟩ [] .null [("name", .text "Bob")],
    .upsert ⟨"t", .customer, []⟩ [] .null [("name", .text "Cid")]]

/-- Everybody of the tenant. -/
def everybody : Audience := ⟨"t", .customer, ⟨.all, [], .customer⟩, ⟨1, by decide, by decide⟩⟩

theorem everybody_decides (target : TargetRecord) : everybody.Decides target := ⟨true, rfl⟩

theorem mixed_ascending : Ascending ((mixed.store.targets everybody.kind).map Target.id) := by
  unfold Ascending
  decide +kernel

end Sample

/-- One by one, a stream finds the first and the third customer. -/
theorem sample_streams_exactly :
    (Sample.mixed.store.created = true ∧
      Ascending ((Sample.mixed.store.targets Sample.everybody.kind).map Target.id)) ∧
    Ends (Sample.everybody.matching 1 (some 2)) Sample.mixed fun result after =>
      after = Sample.mixed ∧ ∃ found, result = .ok found ∧ found.map TargetRecord.id = [1, 3] := by
  have created : Sample.mixed.store.created = true := by decide +kernel
  have streams : Ends (Sample.everybody.matching 1 (some 2)) Sample.mixed fun result after =>
      after = Sample.mixed ∧
        result = .ok (Audience.cut (some 2) (Sample.everybody.selected Sample.mixed.store)) :=
    (Audience.streams_exactly (by decide) (by decide) created Sample.mixed_ascending
      fun target _ => Sample.everybody_decides target).2.2.2.1 (some 2)
  refine ⟨⟨created, Sample.mixed_ascending⟩, streams.mono ?_⟩
  rintro _ _ ⟨rfl, rfl⟩
  refine ⟨rfl, _, rfl, ?_⟩
  decide +kernel

/-- A size of batches that the database does not take makes a stream fail which would find the same
customers. -/
theorem overlong_batch_fails :
    Ends (Sample.everybody.matching 9223372036854775808 none) Sample.mixed fun result _ =>
      result ≠ .ok (Audience.cut none (Sample.everybody.selected Sample.mixed.store)) := by
  have created : Sample.mixed.store.created = true := by decide +kernel
  rw [Audience.matching, Audience.fold, ends_bind, ends_lift]
  refine (Audience.walk_unfit (by decide) created rfl).mono ?_
  rintro ⟨found, failure⟩ after ⟨-, -, failed⟩
  obtain ⟨failure, rfl⟩ := Option.isSome_iff_exists.mp failed
  rintro ⟨⟩

end Herald
