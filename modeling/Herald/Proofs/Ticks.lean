import Herald.Proofs.Due
import Herald.Proofs.Neighbours

/-! # What a tick comes to

A tick first completes the campaigns whose end date has come, then looks up what is due, and then
runs one pass after the other, whatever becomes of each. Behind `tick_ends` it is those passes on
tables in which nothing has ended, and `runAll_leads` carries an invariant from pass to pass.
-/

namespace Herald

variable {σ α : Type} {now : Moment}

namespace Campaign

/-- The end date of a campaign that repeats has come. -/
def isOver (now : Moment) (campaign : Campaign α) : Bool :=
  campaign.isAutomated && campaign.hasEnded now

/-- A campaign that has been completed because its end date has come. -/
def expired (now : Moment) (campaign : Campaign α) : Campaign α :=
  { campaign with
    status := .completed, completedAt := some now, nextRunAt := none, updatedAt := now }

theorem isOver_of_plan [Amount α] {campaign other : Campaign α} (same : other.plan = campaign.plan) :
    other.isOver now = campaign.isOver now :=
  show other.plan.isOver now = campaign.plan.isOver now by rw [same]

/-- What is due is not over. -/
theorem not_isOver_of_isDue {campaign : Campaign α} (due : Lifecycle.isDue now campaign = true) :
    campaign.isOver now = false := by
  simp only [Lifecycle.isDue, Bool.or_eq_true, Bool.and_eq_true, Bool.not_eq_true'] at due
  rcases due with ⟨⟨once, -⟩, -⟩ | ⟨-, goesOn⟩
  · rw [isOver, isAutomated_of_isOneTime once, Bool.false_and]
  · rw [isOver, goesOn, Bool.and_false]

end Campaign

namespace Store

variable {chosen other : Campaign α → Bool} {store : Store α}

/-- The tables once the active ones of some campaigns have been completed. -/
def completing (now : Moment) (chosen : Campaign α → Bool) (store : Store α) : Store α :=
  { store with campaigns := store.campaigns.map fun row =>
      if chosen row && row.status == .active then row.expired now else row }

/-- The tables once the scheduler has completed the campaigns that are over. -/
def lapsed (now : Moment) (store : Store α) : Store α := store.completing now (Campaign.isOver now)

theorem completing_congr
    (same : ∀ row ∈ store.campaigns, row.status = .active → chosen row = other row) :
    store.completing now chosen = store.completing now other := by
  rw [completing, completing]
  congr 1
  refine List.map_congr_left fun row member => ?_
  cases active : row.status == .active with
  | false => rw [Bool.and_false, Bool.and_false]
  | true => rw [same row member (beq_iff_eq.mp active)]

theorem completing_none : store.completing now (fun _ => false) = store := by
  simp only [completing, Bool.false_and, Bool.false_eq_true, ↓reduceIte, List.map_id']

/-- What has been completed is not active any more. -/
theorem completing_completing :
    (store.completing now chosen).completing now other =
      store.completing now fun row => chosen row || other row := by
  simp only [completing, List.map_map]
  congr 1
  refine List.map_congr_left fun row _ => ?_
  simp only [Function.comp_apply]
  by_cases active : (row.status == .active) = true
  · by_cases first : chosen row = true
    · have ended : ((row.expired now).status == .active) = false := rfl
      simp only [first, active, ended, Bool.and_self, Bool.and_false, Bool.true_or, ↓reduceIte,
        Bool.false_eq_true]
    · simp only [first, active, Bool.false_and, Bool.false_or, Bool.false_eq_true, ↓reduceIte]
  · simp only [active, Bool.and_false, Bool.false_eq_true, ↓reduceIte]

theorem mem_completing {row : Campaign α} (member : row ∈ (store.completing now chosen).campaigns) :
    ∃ old ∈ store.campaigns,
      row = if chosen old && old.status == .active then old.expired now else old := by
  obtain ⟨old, there, rfl⟩ := List.mem_map.mp member
  exact ⟨old, there, rfl⟩

theorem ids_completing : (store.completing now chosen).campaigns.map Campaign.id =
    store.campaigns.map Campaign.id := by
  rw [completing, List.map_map]
  refine List.map_congr_left fun row _ => ?_
  simp only [Function.comp_apply]
  split <;> rfl

/-- Once the campaigns that are over have been completed, none of them is active. -/
theorem lapsed_not_active {row : Campaign α} (member : row ∈ (store.lapsed now).campaigns)
    (ended : row.isOver now = true) : row.status ≠ .active := by
  obtain ⟨old, -, rfl⟩ := mem_completing member
  intro active
  split at active
  · cases active
  · rename_i waits
    rw [if_neg waits] at ended
    exact waits (by rw [ended, active]; rfl)

/-- The rows of campaigns stand in the order of their ids. -/
def Sorted (store : Store α) : Prop := (store.campaigns.map Campaign.id).Pairwise (· < ·)

theorem Sorted.unique (sorted : store.Sorted) {campaign other : Campaign α}
    (member : campaign ∈ store.campaigns) (member' : other ∈ store.campaigns)
    (same : campaign.id = other.id) : campaign = other :=
  List.inj_on_of_nodup_map (sorted.imp Int.ne_of_lt) member member' same

theorem Sorted.of_ids {after : Store α} (sorted : store.Sorted)
    (same : after.campaigns.map Campaign.id = store.campaigns.map Campaign.id) : after.Sorted := by
  rw [Sorted, same]
  exact sorted

/-- What has been completed stays so. -/
theorem lapsed_eq_self
    (waits : ∀ row ∈ store.campaigns, row.isOver now = true → row.status ≠ .active) :
    store.lapsed now = store := by
  have nothing : ∀ row ∈ store.campaigns, row.status = .active → row.isOver now = false :=
    fun row member active => Bool.eq_false_of_not_eq_true fun ended => waits row member ended active
  rw [lapsed, completing_congr nothing, completing_none]

/-- Tables that are there, whose rows of campaigns have ids that fit into their columns and stand in
the order of these. -/
structure Keyed (store : Store α) : Prop where
  created : store.created = true
  sorted : store.Sorted
  fits : ∀ campaign ∈ store.campaigns, Cell.fits campaign.id = true

theorem Keyed.lapsed (keyed : store.Keyed) : (store.lapsed now).Keyed where
  created := keyed.created
  sorted := keyed.sorted.of_ids ids_completing
  fits row member := by
    obtain ⟨old, there, rfl⟩ := mem_completing member
    split <;> exact keyed.fits old there

end Store

/-- A world once the scheduler has completed the campaigns that are over. -/
abbrev World.lapsed (world : World σ α) : World σ α :=
  { world with store := world.store.lapsed world.now }

namespace Scheduler

/-! ## What is completed -/

/-- The campaigns of some ids are completed where they are active. -/
theorem expireAll_ends {campaigns : List (Campaign α)}
    (fits : ∀ campaign ∈ campaigns, Cell.fits campaign.id = true) {world : World σ α}
    (created : world.store.created = true) :
    Ends (expireAll world.now campaigns) world fun result after => (∃ count, result = .ok count) ∧
      after = { world with
        store := world.store.completing world.now fun row => campaigns.any (row.id == ·.id) } := by
  induction campaigns generalizing world with
  | nil => exact ⟨⟨0, rfl⟩, by simp only [List.any_nil, Store.completing_none]; rfl⟩
  | cons first others ih =>
    obtain ⟨fitsFirst, fitsOthers⟩ := List.forall_mem_cons.mp fits
    rw [expireAll, ends_bind]
    refine ((Lifecycle.transition_ends first.id _ _ world).and
      (Lifecycle.transition_succeeds _ _ created fitsFirst)).mono ?_
    rintro _ middle ⟨wrote, expired, rfl⟩
    obtain ⟨-, rfl⟩ := wrote
    dsimp only
    rw [ends_bind]
    let middle := world.store.completing world.now (·.id == first.id)
    refine (ih fitsOthers
      (show ({ world with store := middle } : World σ α).store.created = true from created)).mono ?_
    rintro _ after ⟨⟨count, rfl⟩, rfl⟩
    refine ⟨⟨_, rfl⟩, ?_⟩
    simp only [middle, Store.completing_completing, List.any_cons]
    rfl

/-- The scheduler completes the campaigns that are over, and nothing else. -/
theorem expireEnded_ends {world : World σ α} (keyed : world.store.Keyed) :
    Ends (expireEnded world.now) world fun result after => (∃ count, result = .ok count) ∧
      after = world.lapsed := by
  rw [expireEnded, ends_bind, Lifecycle.ended, ends_query keyed.created]
  dsimp only
  refine (expireAll_ends (fun campaign member => keyed.fits campaign (List.mem_filter.mp member).1)
    keyed.created).mono ?_
  rintro result after ⟨counts, rfl⟩
  refine ⟨counts, ?_⟩
  have same : ∀ row ∈ world.store.campaigns, row.status = .active →
      (world.store.campaigns.filter fun campaign => campaign.isAutomated &&
        campaign.status == .active && campaign.hasEnded world.now).any (row.id == ·.id) =
          row.isOver world.now := by
    intro row member active
    rw [Bool.eq_iff_iff, List.any_eq_true]
    constructor
    · rintro ⟨campaign, there, same⟩
      obtain ⟨there, ended⟩ := List.mem_filter.mp there
      cases keyed.sorted.unique member there (beq_iff_eq.mp same)
      simp only [active, BEq.rfl, Bool.and_true] at ended
      exact ended
    · intro ended
      refine ⟨row, List.mem_filter.mpr ⟨member, ?_⟩, BEq.rfl⟩
      simp only [active, BEq.rfl, Bool.and_true]
      exact ended
  rw [World.lapsed, Store.lapsed, ← Store.completing_congr same]

/-! ## What is run -/

theorem Reads.lapsed {zone : Zone} {store : Store α} (reads : Reads zone now store) :
    Reads zone now (store.lapsed now) := by
  intro row member due
  obtain ⟨old, there, rfl⟩ := Store.mem_completing member
  split at due
  · cases Lifecycle.isRunnable_of_isDue due
  · rename_i stays
    rw [if_neg stays]
    exact reads old there due

/-- Tables on which a tick comes to its passes. -/
structure Sound (engine : Engine σ α) (world : World σ α) : Prop extends world.store.Keyed where
  reads : Reads engine.settings.zone world.now world.store

/-- What is found in tables, in its order: what runs once and then what repeats, each by its id. -/
structure Lists (zone : Zone) (now : Moment) (store : Store α) (onces repeats : List (Campaign α)) :
    Prop where
  once_iff : ∀ campaign, campaign ∈ onces ↔ campaign ∈ store.campaigns ∧
    campaign.isOneTime = true ∧ Lifecycle.isDue now campaign = true
  repeats_iff : ∀ campaign, campaign ∈ repeats ↔ campaign ∈ store.campaigns ∧
    campaign.isAutomated = true ∧ Lifecycle.isDue now campaign = true ∧
      campaign.window.isOpenAt zone now = .ok true
  once_sorted : (onces.map Campaign.id).Pairwise (· < ·)
  repeats_sorted : (repeats.map Campaign.id).Pairwise (· < ·)

theorem foundIn_lists {zone : Zone} {store : Store α} (sorted : store.Sorted) :
    ∃ onces repeats, foundIn zone now store = onces ++ repeats ∧
      Lists zone now store onces repeats := by
  have sorts : ∀ rows : List (Campaign α), rows.Sublist store.campaigns →
      (rows.map Campaign.id).Pairwise (· < ·) := fun rows among => sorted.sublist (among.map _)
  refine ⟨_, _, List.filter_append .., fun campaign => ?_, fun campaign => ?_, sorts _ ?_, sorts _ ?_⟩
  · simp only [List.mem_filter, opens_iff]
    constructor
    · rintro ⟨⟨⟨member, due⟩, once⟩, -⟩
      exact ⟨member, once, due⟩
    · rintro ⟨member, once, due⟩
      refine ⟨⟨⟨member, due⟩, once⟩, ?_⟩
      rw [isOpen, Campaign.isAutomated_of_isOneTime once]
      rfl
  · simp only [List.mem_filter, opens_iff]
    constructor
    · rintro ⟨⟨⟨member, due⟩, again⟩, opens⟩
      rw [isOpen, if_pos again] at opens
      exact ⟨member, again, due, opens⟩
    · rintro ⟨member, again, due, opens⟩
      refine ⟨⟨⟨member, due⟩, again⟩, ?_⟩
      rwa [isOpen, if_pos again]
  · exact List.filter_sublist.trans (List.filter_sublist.trans List.filter_sublist)
  · exact List.filter_sublist.trans (List.filter_sublist.trans List.filter_sublist)

variable [Amount α] {engine : Engine σ α}

/-- What a tick finds to run. -/
abbrev found (engine : Engine σ α) (world : World σ α) : List (Campaign α) :=
  foundIn engine.settings.zone world.now world.lapsed.store

/-- A tick completes the campaigns that are over. Then it runs what it finds, as far as it can be
told what is due. -/
theorem tick_tells {world : World σ α} {after : Except Failure (List Attempt) → World σ α → Prop}
    (keyed : world.store.Keyed)
    (tells : match openOnes engine.settings.zone world.now
        (Lifecycle.dueIn world.now world.lapsed.store) with
      | .error failure => after (.error failure) world.lapsed
      | .ok campaigns => Leads (runAll engine campaigns) world.lapsed
        fun attempts => after (.ok attempts)) :
    Ends (tick engine) world after := by
  rw [tick, ends_bind, ends_clock]
  dsimp only
  rw [ends_bind]
  refine (expireEnded_ends keyed).mono ?_
  rintro _ middle ⟨⟨count, rfl⟩, rfl⟩
  dsimp only
  rw [ends_bind, due_ends (show world.lapsed.store.created = true from keyed.created)]
  cases told : openOnes engine.settings.zone world.now
    (Lifecycle.dueIn world.now world.lapsed.store) with
  | error failure =>
    rw [told] at tells
    exact tells
  | ok campaigns =>
    rw [told] at tells
    exact tells

/-- A tick returns what has become of the campaigns that it finds. -/
theorem tick_ends {world : World σ α} {after : Except Failure (List Attempt) → World σ α → Prop}
    (sound : Sound engine world)
    (runs : Leads (runAll engine (found engine world)) world.lapsed
      fun attempts => after (.ok attempts)) :
    Ends (tick engine) world after := by
  refine tick_tells sound.toKeyed ?_
  rw [sound.reads.lapsed.told]
  exact runs

/-- What each pass carries on to the next one holds behind the last, and each campaign has its
attempt. -/
theorem runAll_leads {I : List (Campaign α) → World σ α → Prop}
    (step : ∀ campaign rest world, I (campaign :: rest) world →
      Ends (Pass.execute engine campaign.id) world fun _ after => I rest after)
    {campaigns : List (Campaign α)} {world : World σ α} (start : I campaigns world) :
    Leads (runAll engine campaigns) world fun attempts after =>
      attempts.map (·.campaign) = campaigns.map (·.id) ∧ I [] after := by
  induction campaigns generalizing world with
  | nil => exact ⟨rfl, start⟩
  | cons campaign rest ih =>
    rw [runAll, leads_bind]
    refine Leads.mono (step campaign rest world start) fun result middle carried => ?_
    rw [leads_bind]
    refine (ih carried).mono ?_
    rintro attempts after ⟨same, last⟩
    exact ⟨congrArg (campaign.id :: ·) same, last⟩

/-- What is over is not active, and is not among the campaigns that are still to run. -/
structure Rested (now : Moment) (rest : List (Campaign α)) (store : Store α) : Prop where
  waits : ∀ row ∈ store.campaigns, row.isOver now = true → row.status ≠ .active
  spares : ∀ campaign ∈ rest, ∀ row ∈ store.campaigns, row.id = campaign.id → row.isOver now = false

/-- A pass of a campaign that is not over leaves those alone that are. -/
theorem Rested.pass {rest : List (Campaign α)} {campaign : Campaign α} {before after : Store α}
    (rested : Rested now (campaign :: rest) before)
    (same : after.aside campaign.id = before.aside campaign.id) : Rested now rest after where
  waits row member ended := by
    by_cases own : row.id = campaign.id
    · obtain ⟨old, there, ids, plan⟩ := Store.plan_of_aside same member
      rw [Campaign.isOver_of_plan plan,
        rested.spares campaign (List.mem_cons_self ..) old there (ids.trans own)] at ended
      cases ended
    · exact rested.waits row (Store.mem_of_aside same member own) ended
  spares other among row member own := by
    obtain ⟨old, there, ids, plan⟩ := Store.plan_of_aside same member
    rw [Campaign.isOver_of_plan plan]
    exact rested.spares other (List.mem_cons_of_mem _ among) old there (ids.trans own)

omit [Amount α] in
/-- Once the campaigns that are over have been completed, what is found is not over. -/
theorem rested_lapsed {zone : Zone} {store : Store α} (sorted : store.Sorted) :
    Rested now (foundIn zone now (store.lapsed now)) (store.lapsed now) where
  waits _ member ended := Store.lapsed_not_active member ended
  spares campaign among row member own := by
    obtain ⟨there, due, -⟩ := mem_foundIn.mp among
    rw [(sorted.of_ids Store.ids_completing).unique member there own]
    exact Campaign.not_isOver_of_isDue due

/-- What is over is not run by a tick, and is not active behind it. -/
theorem tick_spares_over (spares : engine.SparesTables) {world : World σ α}
    (sound : Sound engine world) :
    Ends (tick engine) world fun result after => ∃ attempts, result = .ok attempts ∧
      attempts.map (·.campaign) = (found engine world).map (·.id) ∧
      (∀ campaign ∈ world.store.campaigns, campaign.isOver world.now = true →
        campaign.status = .active → campaign.id ∉ attempts.map (·.campaign)) ∧
      ∀ campaign ∈ after.store.campaigns, campaign.isOver world.now = true →
        campaign.status ≠ .active := by
  have rested : Rested world.now (found engine world) world.lapsed.store :=
    rested_lapsed sound.sorted
  refine tick_ends sound ?_
  refine (runAll_leads (I := fun rest after => Rested world.now rest after.store) ?_ rested).mono ?_
  · intro campaign rest before rested
    exact ((Pass.execute_aside spares campaign.id).leads before).mono fun _ _ same =>
      rested.pass same
  · rintro attempts after ⟨ids, rested⟩
    refine ⟨attempts, rfl, ids, fun campaign member ended active among => ?_, rested.waits⟩
    rw [ids] at among
    obtain ⟨other, among, same⟩ := List.mem_map.mp among
    obtain ⟨here, due, -⟩ := mem_foundIn.mp among
    obtain ⟨old, there, rfl⟩ := Store.mem_completing here
    have same : old.id = campaign.id := by split at same <;> exact same
    cases sound.sorted.unique there member same
    rw [if_pos (by rw [ended, active]; rfl)] at due
    cases (Campaign.not_isOver_of_isDue due).symm.trans ended

end Scheduler

end Herald
