import Herald.Proofs.History
import Herald.Proofs.Retention

/-! # The cooldown ledger as a map

Whatever has been recorded and cleaned up, the ledger has one row for each pair that was recorded
and whose last record no later cleanup has removed, with the time of that record. So all that is
asked of the ledger is settled by the times of the last records: `Stands` says which these are, and
`Holds` that the rows are just these.
-/

namespace Herald

variable {σ α : Type}

namespace CooldownLedger

/-! ## Pairs and calls -/

/-- A campaign and a target of it. -/
@[ext]
structure Key where
  campaign : Int
  target : String
  targetId : Int
  deriving DecidableEq

/-- The pair that a row is about. -/
def keyOf (row : Cooldown) : Key := ⟨row.campaign, row.target, row.targetId⟩

/-- The database has room for the ids of a pair. -/
def Key.Fits (key : Key) : Prop := Cell.fits key.campaign = true ∧ Cell.fits key.targetId = true

/-- A call that changes the ledger. -/
inductive Call
  | record (key : Key) (tenant : String)
  | cleanup (days : Int)

/-- Call the ledger, and count the rows that are removed. -/
def Call.run : Call → Run σ α Nat
  | .record key tenant => do
    CooldownLedger.record key.campaign key.target key.targetId tenant
    return 0
  | .cleanup days => CooldownLedger.cleanup (.int days)

/-- Calls of the ledger, each with the time at which it is made. -/
abbrev Calls := List (Moment × Call)

/-- The world after calls of the ledger. -/
def afterCalls (world : World σ α) (calls : Calls) : World σ α :=
  calls.foldl (fun world call => call.2.run.worldAfter { world with now := call.1 }) world

@[simp] theorem afterCalls_snoc (world : World σ α) (calls : Calls) (now : Moment) (call : Call) :
    afterCalls world (calls ++ [(now, call)]) =
      call.run.worldAfter { afterCalls world calls with now } := by
  rw [afterCalls, List.foldl_append]
  rfl

/-- The tables of a ledger in which nothing has been recorded yet. -/
def unreached (world : World σ α) : World σ α :=
  { world with store := { world.store with created := true, cooldowns := [] } }

/-! ## The last records -/

/-- A call that is made at a time puts an end to what a pair was recorded at before: the pair is
recorded again, or a cleanup removes everything before some later time. -/
def Call.Displaces (call : Call) (now : Moment) (key : Key) (sent : Moment) : Prop :=
  match call with
  | .record other _ => other = key
  | .cleanup days => ∃ start, windowStart now (.int days) = .ok start ∧ sent < start

/-- The last record of a pair was made at a time, and no later cleanup has removed it. -/
def Stands (calls : Calls) (key : Key) (sent : Moment) : Prop :=
  key.Fits ∧ ∃ before tenant after, calls = before ++ (sent, .record key tenant) :: after ∧
    ∀ later ∈ after, ¬ later.2.Displaces later.1 key sent

theorem not_stands_nil (key : Key) (sent : Moment) : ¬ Stands [] key sent := by
  rintro ⟨-, before, tenant, after, none, -⟩
  cases before <;> cases none

/-- One more call is the last record itself, or leaves the last record. -/
theorem stands_snoc {calls : Calls} {now : Moment} {call : Call} {key : Key} {sent : Moment} :
    Stands (calls ++ [(now, call)]) key sent ↔
      (key.Fits ∧ sent = now ∧ ∃ tenant, call = .record key tenant) ∨
        (Stands calls key sent ∧ ¬ call.Displaces now key sent) := by
  constructor
  · rintro ⟨fits, before, tenant, after, split, stays⟩
    rcases List.eq_nil_or_concat after with rfl | ⟨rest, last, rfl⟩
    · obtain ⟨-, same⟩ := List.append_inj' split rfl
      cases same
      exact .inl ⟨fits, rfl, tenant, rfl⟩
    · rw [List.concat_eq_append, ← List.cons_append, ← List.append_assoc] at split
      obtain ⟨rfl, same⟩ := List.append_inj' split rfl
      cases same
      rw [List.concat_eq_append, List.forall_mem_append, List.forall_mem_singleton] at stays
      exact .inr ⟨⟨fits, before, tenant, rest, rfl, stays.1⟩, stays.2⟩
  · rintro (⟨fits, rfl, tenant, rfl⟩ | ⟨⟨fits, before, tenant, after, rfl, stays⟩, goes⟩)
    · exact ⟨fits, calls, tenant, [], rfl, List.forall_mem_nil _⟩
    · refine ⟨fits, before, tenant, after ++ [(now, call)], ?_, ?_⟩
      · rw [List.append_assoc, List.cons_append]
      · rw [List.forall_mem_append, List.forall_mem_singleton]
        exact ⟨stays, goes⟩

/-! ## One call -/

theorem isFor_iff {key : Key} {row : Cooldown} :
    isFor key.campaign key.target key.targetId row = true ↔ keyOf row = key := by
  simp only [isFor, Bool.and_eq_true, beq_iff_eq, keyOf, Key.ext_iff, and_assoc]

/-- The ledger has a row for a pair with a time. -/
def HasRow (store : Store α) (key : Key) (sent : Moment) : Prop :=
  ∃ row ∈ store.cooldowns, keyOf row = key ∧ row.sentAt = sent

section Tables

variable (store : Store α) (key : Key) (tenant : String) (now : Moment)

theorem keyOf_moved (row : Cooldown) :
    keyOf (if isFor key.campaign key.target key.targetId row then { row with sentAt := now }
      else row) = keyOf row := by
  split <;> rfl

/-- Recording a pair gives it the time, and no other. -/
theorem hasRow_recordIn {other : Key} {sent : Moment} :
    HasRow (recordIn key.campaign key.target key.targetId tenant now store) other sent ↔
      if other = key then sent = now else HasRow store other sent := by
  unfold HasRow
  rw [recordIn]
  by_cases known : store.cooldowns.any (isFor key.campaign key.target key.targetId) = true
  · rw [if_pos known]
    obtain ⟨old, among, about⟩ := List.any_eq_true.mp known
    by_cases same : other = key
    · subst same
      rw [if_pos rfl]
      constructor
      · rintro ⟨row, member, own, rfl⟩
        obtain ⟨before, -, rfl⟩ := List.mem_map.mp member
        rw [keyOf_moved] at own
        rw [if_pos (isFor_iff.mpr own)]
      · rintro rfl
        refine ⟨_, List.mem_map_of_mem among, ?_, ?_⟩
        · rw [keyOf_moved, isFor_iff.mp about]
        · rw [if_pos about]
    · rw [if_neg same]
      constructor
      · rintro ⟨row, member, own, rfl⟩
        obtain ⟨before, there, rfl⟩ := List.mem_map.mp member
        rw [keyOf_moved] at own
        refine ⟨before, there, own, ?_⟩
        rw [if_neg fun about => same (own.symm.trans (isFor_iff.mp about))]
      · rintro ⟨row, member, own, rfl⟩
        refine ⟨_, List.mem_map_of_mem member, (keyOf_moved key now row).trans own, ?_⟩
        rw [if_neg fun about => same (own.symm.trans (isFor_iff.mp about))]
  · rw [if_neg known]
    have unknown : ∀ row ∈ store.cooldowns, keyOf row ≠ key :=
      fun row member own => known (List.any_eq_true.mpr ⟨row, member, isFor_iff.mpr own⟩)
    simp only [List.mem_append, List.mem_singleton]
    by_cases same : other = key
    · subst same
      rw [if_pos rfl]
      constructor
      · rintro ⟨row, member | rfl, own, rfl⟩
        · exact absurd own (unknown row member)
        · rfl
      · rintro rfl
        exact ⟨_, .inr rfl, rfl, rfl⟩
    · rw [if_neg same]
      constructor
      · rintro ⟨row, member | rfl, own, rfl⟩
        · exact ⟨row, member, own, rfl⟩
        · exact absurd own.symm same
      · rintro ⟨row, member, own, rfl⟩
        exact ⟨row, .inl member, own, rfl⟩

variable {store}

/-- Recording a pair does not give it a second row. -/
theorem nodup_recordIn (single : (store.cooldowns.map keyOf).Nodup) :
    ((recordIn key.campaign key.target key.targetId tenant now store).cooldowns.map
      keyOf).Nodup := by
  rw [recordIn]
  by_cases known : store.cooldowns.any (isFor key.campaign key.target key.targetId) = true
  · rw [if_pos known, List.map_map]
    simpa only [Function.comp_def, keyOf_moved] using single
  · rw [if_neg known, List.map_append, List.nodup_append]
    refine ⟨single, List.nodup_singleton _, ?_⟩
    intro other among added member
    obtain ⟨row, there, rfl⟩ := List.mem_map.mp among
    rintro rfl
    rw [List.map_singleton, List.mem_singleton] at member
    exact known (List.any_eq_true.mpr ⟨row, there, isFor_iff.mpr member⟩)

/-- Cleaning up leaves the rows that are not older than the window. -/
theorem hasRow_cleanupIn {start sent : Moment} {other : Key} :
    HasRow (cleanupIn start store).2 other sent ↔ HasRow store other sent ∧ ¬ sent < start := by
  simp only [HasRow, cleanupIn, List.mem_filter, Bool.not_eq_true', decide_eq_false_iff_not]
  constructor
  · rintro ⟨row, ⟨member, recent⟩, own, rfl⟩
    exact ⟨⟨row, member, own, rfl⟩, recent⟩
  · rintro ⟨⟨row, member, own, rfl⟩, recent⟩
    exact ⟨row, ⟨member, recent⟩, own, rfl⟩

theorem nodup_cleanupIn (start : Moment) (single : (store.cooldowns.map keyOf).Nodup) :
    ((cleanupIn start store).2.cooldowns.map keyOf).Nodup :=
  single.sublist (List.filter_sublist.map keyOf)

end Tables

/-- The rows are the last records, one for each pair. -/
structure Holds (calls : Calls) (store : Store α) : Prop where
  created : store.created = true
  single : (store.cooldowns.map keyOf).Nodup
  rows : ∀ key sent, HasRow store key sent ↔ Stands calls key sent

section Steps

variable {store : Store α} {calls : Calls} (holds : Holds calls store)

include holds

/-- Nothing is changed by a call that displaces nothing and records nothing. -/
theorem Holds.idle {now : Moment} {call : Call}
    (idle : ∀ key sent, Stands calls key sent → ¬ call.Displaces now key sent)
    (unrecorded : ∀ key tenant, call = .record key tenant → ¬ key.Fits) :
    Holds (calls ++ [(now, call)]) store where
  created := holds.created
  single := holds.single
  rows := by
    intro key sent
    rw [holds.rows, stands_snoc]
    constructor
    · exact fun stands => .inr ⟨stands, idle key sent stands⟩
    · rintro (⟨fits, -, tenant, recorded⟩ | ⟨stands, -⟩)
      · exact absurd fits (unrecorded key tenant recorded)
      · exact stands

/-- A pair that is recorded has one row, with the time of that. -/
theorem Holds.record {key : Key} (fits : key.Fits) (tenant : String) (now : Moment) :
    Holds (calls ++ [(now, .record key tenant)])
      (recordIn key.campaign key.target key.targetId tenant now store) where
  created := by
    unfold recordIn
    split
    · exact holds.created
    · exact holds.created
  single := nodup_recordIn key tenant now holds.single
  rows := by
    intro other sent
    rw [hasRow_recordIn, stands_snoc, holds.rows]
    by_cases same : other = key
    · subst same
      rw [if_pos rfl]
      constructor
      · exact fun time => .inl ⟨fits, time, tenant, rfl⟩
      · rintro (⟨-, time, -⟩ | ⟨-, again⟩)
        · exact time
        · exact absurd rfl again
    · rw [if_neg same]
      constructor
      · exact fun stands => .inr ⟨stands, fun own => same own.symm⟩
      · rintro (⟨-, -, again, recorded⟩ | ⟨stands, -⟩)
        · cases recorded
          exact absurd rfl same
        · exact stands

/-- Of the rows those stay that are not older than the window. -/
theorem Holds.cleanup {now start : Moment} {days : Int}
    (opens : windowStart now (.int days) = .ok start) :
    Holds (calls ++ [(now, .cleanup days)]) (cleanupIn start store).2 where
  created := holds.created
  single := nodup_cleanupIn start holds.single
  rows := by
    intro other sent
    have displaces : Call.Displaces (.cleanup days) now other sent ↔ sent < start := by
      constructor
      · rintro ⟨later, opened, old⟩
        cases opens.symm.trans opened
        exact old
      · exact fun old => ⟨start, opens, old⟩
    rw [hasRow_cleanupIn, stands_snoc, holds.rows, displaces]
    constructor
    · exact .inr
    · rintro (⟨-, -, tenant, recorded⟩ | stays)
      · cases recorded
      · exact stays

end Steps

theorem fitted_of_fits {number : Int} (fits : Cell.fits number = true) :
    Cell.fitted number = .ok number := if_pos fits

theorem mapM_fitted {ids : List Int} (fits : ∀ id ∈ ids, Cell.fits id = true) :
    ids.mapM Cell.fitted = .ok ids := by
  induction ids with
  | nil => rfl
  | cons id rest ih =>
    rw [List.forall_mem_cons] at fits
    rw [List.mapM_cons, fitted_of_fits fits.1, ih fits.2]
    rfl

/-- A pair is recorded if the database has room for it. -/
theorem record_writes (world : World σ α) (created : world.store.created = true) (key : Key)
    (tenant : String) :
    Ends (record key.campaign key.target key.targetId tenant) world fun _ after =>
      (key.Fits ∧ after = { world with
        store := recordIn key.campaign key.target key.targetId tenant world.now world.store }) ∨
      (¬ key.Fits ∧ after = world) := by
  rw [record, ends_bind, ends_clock]
  dsimp only
  rw [ends_commit created]
  by_cases campaign : Cell.fits key.campaign = true
  · by_cases target : Cell.fits key.targetId = true
    · rw [fitted_of_fits campaign, fitted_of_fits target]
      exact .inl ⟨⟨campaign, target⟩, rfl⟩
    · rw [fitted_of_fits campaign, Cell.fitted, if_neg target]
      exact .inr ⟨fun fits => target fits.2, rfl⟩
  · rw [Cell.fitted, if_neg campaign]
    exact .inr ⟨fun fits => campaign fits.1, rfl⟩

/-- What is older than a window that there is is removed and counted. -/
theorem cleanup_writes (world : World σ α) (created : world.store.created = true) (days : Cell) :
    Ends (cleanup days) world fun result after =>
      match windowStart world.now days with
      | .ok start => result = .ok (cleanupIn start world.store).1 ∧
          after = { world with store := (cleanupIn start world.store).2 }
      | .error failure => result = .error failure ∧ after = world := by
  rw [cleanup, ends_bind, ends_clock]
  dsimp only
  rw [ends_bind, ends_pure?]
  cases windowStart world.now days with
  | error failure => exact ⟨rfl, rfl⟩
  | ok start =>
    dsimp only
    rw [ends_commit created]
    exact ⟨rfl, rfl⟩

/-- A call leaves the last records behind. -/
theorem Holds.snoc {world : World σ α} {calls : Calls} (holds : Holds calls world.store)
    (now : Moment) (call : Call) :
    Holds (calls ++ [(now, call)]) (call.run.worldAfter { world with now }).store := by
  cases call with
  | record key tenant =>
    rw [Call.run, Run.worldAfter_then]
    have writes : _ ∨ _ :=
      record_writes { world with now } holds.created key tenant
    rcases writes with ⟨fits, after⟩ | ⟨unfit, after⟩
    · rw [show Run.worldAfter _ _ = _ from after]
      exact holds.record fits tenant now
    · rw [show Run.worldAfter _ _ = _ from after]
      apply holds.idle
      · rintro other sent ⟨fits, -⟩ rfl
        exact unfit fits
      · rintro other again ⟨⟩
        exact unfit
  | cleanup days =>
    have writes := cleanup_writes { world with now } holds.created (.int days)
    unfold Ends Leads at writes
    dsimp only at writes
    cases opens : windowStart now (.int days) with
    | ok start =>
      rw [opens] at writes
      rw [Call.run, Run.worldAfter, writes.2]
      exact holds.cleanup opens
    | error failure =>
      rw [opens] at writes
      rw [Call.run, Run.worldAfter, writes.2]
      apply holds.idle
      · rintro other sent - ⟨start, opened, -⟩
        cases opens.symm.trans opened
      · rintro other tenant ⟨⟩

/-- The ledger holds the last records after any calls. -/
theorem holds_afterCalls (world : World σ α) (calls : Calls) :
    Holds calls (afterCalls (unreached world) calls).store := by
  induction calls using List.reverseRecOn with
  | nil =>
    refine ⟨rfl, List.nodup_nil, fun key sent => iff_of_false ?_ (not_stands_nil key sent)⟩
    rintro ⟨row, member, -⟩
    cases member
  | append_singleton calls call holds =>
    rw [afterCalls_snoc]
    exact holds.snoc call.1 call.2

/-! ## What is asked of the ledger -/

/-- A pair is in cooldown for a number of days: it was last reached at most so many days ago. -/
def InCooldown (calls : Calls) (now : Moment) (key : Key) (days : Int) : Prop :=
  1 ≤ days ∧ ∃ sent, Stands calls key sent ∧ (now.micros : ℤ) ≤ sent.micros + days * dayMicros

theorem InCooldown.mono {calls : Calls} {now : Moment} {key : Key} {days longer : Int}
    (cools : InCooldown calls now key days) (le : days ≤ longer) :
    InCooldown calls now key longer := by
  obtain ⟨positive, sent, stands, recent⟩ := cools
  refine ⟨positive.trans le, sent, stands, recent.trans ?_⟩
  gcongr

section Queries

variable {world : World σ α} {calls : Calls} (holds : Holds calls world.store) {days : Int}
  {start : Moment} (opens : windowStart world.now (.int days) = .ok start)

include holds opens

/-- The rows in a window are the last records that are not older than it. -/
theorem isActiveIn_iff_stands (key : Key) :
    isActiveIn world.store key.campaign key.target key.targetId start = true ↔
      ∃ sent, Stands calls key sent ∧
        (world.now.micros : ℤ) ≤ sent.micros + days * dayMicros := by
  obtain ⟨micros, lasts, opened⟩ := windowStart_eq opens
  obtain rfl : days * (dayMicros : ℤ) = micros := Except.ok.inj lasts
  rw [isActiveIn_iff]
  constructor
  · rintro ⟨row, member, about, recent⟩
    refine ⟨row.sentAt, (holds.rows _ _).mp ⟨row, member, isFor_iff.mp about, rfl⟩, ?_⟩
    omega
  · rintro ⟨sent, stands, recent⟩
    obtain ⟨row, member, own, rfl⟩ := (holds.rows _ _).mpr stands
    exact ⟨row, member, isFor_iff.mpr own, by omega⟩

/-- A pair is told to be in cooldown if it is. -/
theorem isInCooldown_answers {key : Key} (fits : key.Fits) :
    Ends (isInCooldown key.campaign key.target key.targetId (.int days)) world fun found after =>
      after = world ∧ ∃ answer, found = .ok answer ∧
        (answer = true ↔ InCooldown calls world.now key days) := by
  rw [isInCooldown, ends_bind, ends_pure?]
  change Ends (if !decide (0 < days) then _ else _) world _
  by_cases positive : 0 < days
  · rw [decide_eq_true positive, if_neg (by decide), ends_bind, ends_clock]
    dsimp only
    rw [ends_bind, ends_pure?, opens]
    dsimp only
    rw [ends_consult holds.created, fitted_of_fits fits.1, fitted_of_fits fits.2]
    refine ⟨rfl, _, rfl, ?_⟩
    rw [isActiveIn_iff_stands holds opens, InCooldown, and_iff_right (by omega)]
  · rw [decide_eq_false positive, if_pos (by decide), ends_pure]
    exact ⟨rfl, false, rfl, iff_of_false nofun fun cools => positive cools.1⟩

/-- The targets of a campaign in a window are told once each, and are those in cooldown. -/
theorem activeIn_answers (campaign : Int) (target : String) (positive : 1 ≤ days) :
    (activeIn world.store campaign target start).Nodup ∧ ∀ targetId,
      targetId ∈ activeIn world.store campaign target start ↔
        InCooldown calls world.now ⟨campaign, target, targetId⟩ days := by
  constructor
  · rw [activeIn]
    apply List.Nodup.of_map (Key.mk campaign target)
    have same : ∀ row ∈ world.store.cooldowns.filter (fun row => row.campaign == campaign &&
        row.target == target && decide (start ≤ row.sentAt)),
        Key.mk campaign target row.targetId = keyOf row := by
      intro row member
      have about := (List.mem_filter.mp member).2
      simp only [Bool.and_eq_true, beq_iff_eq] at about
      rw [keyOf, about.1.1, about.1.2]
    rw [List.map_map]
    exact (List.map_congr_left same).symm ▸ holds.single.sublist (List.filter_sublist.map keyOf)
  · intro targetId
    rw [mem_activeIn_iff, InCooldown, and_iff_right positive]
    exact isActiveIn_iff_stands holds opens ⟨campaign, target, targetId⟩

/-- The targets of a campaign that are told to be in cooldown are those that are, perhaps only those
of a list. -/
theorem activeTargets_answers {campaign : Int} (target : String) (fits : Cell.fits campaign = true)
    (among : Option (List Int)) (listed : ∀ ids ∈ among, ∀ id ∈ ids, Cell.fits id = true) :
    Ends (activeTargets campaign target (.int days) among) world fun found after =>
      after = world ∧ ∃ targets, found = .ok targets ∧ targets.Nodup ∧ ∀ targetId,
        targetId ∈ targets ↔ (∀ ids ∈ among, targetId ∈ ids) ∧
          InCooldown calls world.now ⟨campaign, target, targetId⟩ days := by
  rw [activeTargets, ends_bind, ends_pure?]
  change Ends (if !decide (0 < days) then _ else _) world _
  by_cases positive : 0 < days
  · obtain ⟨single, answers⟩ := activeIn_answers holds opens campaign target positive
    rw [decide_eq_true positive, if_neg (by decide), ends_bind, ends_clock]
    dsimp only
    rw [ends_bind, ends_pure?, opens]
    dsimp only
    cases among with
    | none =>
      dsimp only
      rw [ends_consult holds.created, fitted_of_fits fits]
      exact ⟨rfl, _, rfl, single, fun targetId => by simp [answers]⟩
    | some ids =>
      dsimp only
      by_cases none : ids.isEmpty = true
      · rw [if_pos none, ends_pure]
        rw [List.isEmpty_iff] at none
        exact ⟨rfl, [], rfl, List.nodup_nil, fun targetId => by simp [none]⟩
      · rw [if_neg none, ends_consult holds.created, mapM_fitted (listed ids rfl),
          fitted_of_fits fits]
        refine ⟨rfl, _, rfl, single.sublist List.filter_sublist, fun targetId => ?_⟩
        simp [List.mem_filter, answers, and_comm]
  · rw [decide_eq_false positive, if_pos (by decide), ends_pure]
    refine ⟨rfl, [], rfl, List.nodup_nil, fun targetId => iff_of_false List.not_mem_nil ?_⟩
    rintro ⟨-, cools⟩
    exact positive cools.1

end Queries

/-- The ledger is a map from pairs to the times of their last sends. After any calls it has one row
for each pair whose last record no later cleanup has removed, with the time of that record; a pair
is in cooldown exactly if that is at most so many days ago; the targets in cooldown are told as
such, all or those of a list, and more of them for more days; and a cleanup tells how many rows it
removes. -/
theorem ledger_maps_last_sends (world : World σ α) (calls : Calls) (now : Moment) :
    let after := { afterCalls (unreached world) calls with now }
    (after.store.cooldowns.map keyOf).Nodup ∧
    (∀ key sent, (∃ row ∈ after.store.cooldowns, keyOf row = key ∧ row.sentAt = sent) ↔
      Stands calls key sent) ∧
    ∀ days start, windowStart now (.int days) = .ok start →
      (∀ key : Key, key.Fits →
        Ends (isInCooldown key.campaign key.target key.targetId (.int days)) after
          fun found same => same = after ∧ ∃ answer, found = .ok answer ∧
            (answer = true ↔ InCooldown calls now key days)) ∧
      (∀ campaign target, Cell.fits campaign = true → ∀ among : Option (List Int),
        (∀ ids ∈ among, ∀ id ∈ ids, Cell.fits id = true) →
        Ends (activeTargets campaign target (.int days) among) after fun found same =>
          same = after ∧ ∃ targets, found = .ok targets ∧ targets.Nodup ∧
            (∀ targetId, targetId ∈ targets ↔ (∀ ids ∈ among, targetId ∈ ids) ∧
              InCooldown calls now ⟨campaign, target, targetId⟩ days) ∧
            ∀ longer earlier, days ≤ longer → windowStart now (.int longer) = .ok earlier →
              Ends (activeTargets campaign target (.int longer) among) after fun found _ =>
                ∃ more, found = .ok more ∧ targets ⊆ more) ∧
      Ends (cleanup (.int days)) after fun found later => ∃ removed, found = .ok removed ∧
        later = { after with
          store := { after.store with cooldowns := later.store.cooldowns } } ∧
        later.store.cooldowns.Sublist after.store.cooldowns ∧
        later.store.cooldowns.length + removed = after.store.cooldowns.length := by
  intro after
  have holds : Holds calls after.store := holds_afterCalls world calls
  refine ⟨holds.single, holds.rows, fun days start opens => ⟨?_, ?_, ?_⟩⟩
  · intro key fits
    exact isInCooldown_answers holds opens fits
  · intro campaign target fits among listed
    obtain ⟨same, targets, found, single, answers⟩ : Ends _ after _ :=
      activeTargets_answers holds opens target fits among listed
    refine ⟨same, targets, found, single, answers, ?_⟩
    intro longer earlier le opened
    obtain ⟨-, more, found, -, others⟩ : Ends _ after _ :=
      activeTargets_answers holds opened target fits among listed
    refine ⟨more, found, fun targetId member => ?_⟩
    obtain ⟨own, cools⟩ := (answers targetId).mp member
    exact (others targetId).mpr ⟨own, cools.mono le⟩
  · refine (cleanup_writes after holds.created (.int days)).mono
      fun found later writes => ?_
    rw [show windowStart after.now _ = _ from opens] at writes
    obtain ⟨rfl, rfl⟩ := writes
    refine ⟨_, rfl, rfl, List.filter_sublist, ?_⟩
    exact Nat.add_sub_of_le (List.length_filter_le _ _)

namespace Sample

/-- A day after the first one. -/
def day (number : Nat) (early : number < 4 := by decide) : Moment :=
  ⟨number * dayMicros, (Nat.mul_lt_mul_of_pos_right early (by decide)).trans (by decide)⟩

/-- A campaign and its target. -/
def pair : Key := ⟨1, "customer", 7⟩

/-- A pair is recorded, and a day later everything is removed that is older than a day. -/
def calls : Calls := [(day 1, .record pair "t"), (day 2, .cleanup 1)]

end Sample

/-- Two days after it was recorded a pair is in cooldown for two days. -/
theorem sample_maps_last_sends :
    let after : World Unit Binary64 :=
      { afterCalls (unreached (World.opened (Sample.day 0) ())) Sample.calls with
        now := Sample.day 3 }
    Ends (isInCooldown 1 "customer" 7 (.int 2)) after (fun found same => same = after ∧
      ∃ answer, found = .ok answer ∧
        (answer = true ↔ InCooldown Sample.calls (Sample.day 3) Sample.pair 2)) ∧
    Ends (activeTargets 1 "customer" (.int 2) (some [7, 8])) after (fun found same =>
      same = after ∧ ∃ targets, found = .ok targets ∧ targets.Nodup ∧
        (∀ targetId, targetId ∈ targets ↔ (∀ ids ∈ some [7, 8], targetId ∈ ids) ∧
          InCooldown Sample.calls (Sample.day 3) ⟨1, "customer", targetId⟩ 2) ∧
        ∀ longer earlier, 2 ≤ longer →
          windowStart (Sample.day 3) (.int longer) = .ok earlier →
            Ends (activeTargets 1 "customer" (.int longer) (some [7, 8])) after fun found _ =>
              ∃ more, found = .ok more ∧ targets ⊆ more) ∧
    InCooldown Sample.calls (Sample.day 3) Sample.pair 2 := by
  intro after
  have opens : windowStart (Sample.day 3) (.int 2) = .ok (Sample.day 1) :=
    ok_of_toOption (by decide +kernel)
  have opened : windowStart (Sample.day 2) (.int 1) = .ok (Sample.day 1) :=
    ok_of_toOption (by decide +kernel)
  have fits : Sample.pair.Fits := ⟨by decide +kernel, by decide +kernel⟩
  obtain ⟨answers, targets, -⟩ := (ledger_maps_last_sends
    (World.opened (Sample.day 0) () : World Unit Binary64) Sample.calls (Sample.day 3)).2.2 2
      (Sample.day 1) opens
  refine ⟨answers Sample.pair fits, targets 1 "customer" fits.1 (some [7, 8]) ?_, ?_⟩
  · rintro ids ⟨⟩
    decide
  · refine ⟨by decide, Sample.day 1, ⟨fits, [], "t", [(Sample.day 2, .cleanup 1)], rfl, ?_⟩, ?_⟩
    · rw [List.forall_mem_singleton]
      rintro ⟨start, again, old⟩
      cases opened.symm.trans again
      exact absurd old (by decide)
    · decide

end CooldownLedger

end Herald
