import Herald.Proofs.Outcomes
import Herald.Proofs.Outsiders
import Herald.Proofs.Ticks

/-! # Ticks isolate their campaigns

Every campaign that a tick finds has its own attempt, whatever becomes of the others. What one of
them could do to the others it does in its pass, and the pass of a campaign whose filter does not
compile is refused before it does anything: so the others have the same tick with it and without it.
-/

namespace Herald

variable {σ α : Type}

/-! ## A tick with another campaign -/

namespace Store

variable {outsider : Campaign α} {store : Store α}

theorem Sorted.of_adding (sorted : (store.adding outsider).Sorted) :
    store.Sorted ∧ store.Lacks outsider := by
  obtain ⟨before, behind, rows, same⟩ := insertById_eq Campaign.id outsider store.campaigns
  have sorted : ((before ++ outsider :: behind).map Campaign.id).Pairwise (· < ·) := same ▸ sorted
  rw [List.map_append, List.map_cons] at sorted
  refine ⟨?_, fun campaign member own => ?_⟩
  · rw [Sorted, rows, List.map_append]
    exact sorted.sublist ((List.Sublist.refl _).append (List.sublist_cons_self ..))
  · obtain ⟨-, later, across⟩ := List.pairwise_append.mp sorted
    rw [rows] at member
    rcases List.mem_append.mp member with earlier | behind
    · have less := across campaign.id (List.mem_map_of_mem earlier) outsider.id
        (List.mem_cons_self ..)
      exact absurd less (by rw [own]; exact Int.lt_irrefl _)
    · have less := (List.pairwise_cons.mp later).1 campaign.id (List.mem_map_of_mem behind)
      exact absurd less (by rw [own]; exact Int.lt_irrefl _)

theorem lapsed_adding (store : Store α) {now : Moment} (goesOn : outsider.isOver now = false) :
    (store.adding outsider).lapsed now = (store.lapsed now).adding outsider := by
  rw [lapsed, completing, lapsed, completing, adding, adding]
  congr 1
  refine map_insertById ?_ fun row => ?_
  · rw [goesOn, Bool.false_and]
    exact if_neg Bool.false_ne_true
  · split <;> rfl

end Store

namespace Scheduler

variable {outsider : Campaign α} {zone : Zone} {now : Moment}

/-- A campaign that is due and whose window is open stands among the others that are found. -/
theorem foundIn_adding (due : Lifecycle.isDue now outsider = true)
    (opened : isOpen zone now outsider = .ok true) (store : Store α) : ∃ before behind,
      foundIn zone now store = before ++ behind ∧
        foundIn zone now (store.adding outsider) = before ++ outsider :: behind := by
  obtain ⟨before, behind, rows, same⟩ := insertById_eq Campaign.id outsider store.campaigns
  have opened := opens_iff.mpr opened
  simp only [foundIn, Lifecycle.dueIn, Store.adding]
  rw [same, rows]
  simp only [List.filter_append, List.filter_cons, due, ↓reduceIte]
  rcases Lifecycle.kind_of_isDue due with once | again
  · have waits := Campaign.isAutomated_of_isOneTime once
    simp only [once, waits, opened, List.filter_cons, ↓reduceIte, Bool.false_eq_true]
    exact ⟨_, _, List.append_assoc .., List.append_assoc ..⟩
  · have never := Campaign.isOneTime_of_isAutomated again
    simp only [never, again, opened, List.filter_cons, ↓reduceIte, Bool.false_eq_true]
    exact ⟨_, _, (List.append_assoc ..).symm, (List.append_assoc ..).symm⟩

variable [Amount α] {engine : Engine σ α}

theorem runAll_alike (detached : engine.Detached) {campaigns : List (Campaign α)}
    (others : ∀ campaign ∈ campaigns, campaign.id ≠ outsider.id) :
    Alike (Extra outsider) (runAll engine campaigns) (runAll engine campaigns) := by
  induction campaigns with
  | nil => exact alike_pure
  | cons first rest ih =>
    obtain ⟨head, tail⟩ := List.forall_mem_cons.mp others
    exact alike_bind (Extra.parallel detached head).execute fun _ =>
      alike_bind (ih tail) fun _ => alike_pure

/-- The other campaigns of a tick have the same attempts with one among them that is refused. -/
theorem runAll_outsider (detached : engine.Detached) {failure : Failure}
    (fits : Cell.fits outsider.id = true) (runnable : outsider.status.isRunnable = true)
    {before behind : List (Campaign α)}
    (others : ∀ campaign ∈ before ++ behind, campaign.id ≠ outsider.id) {world other : World σ α}
    (extra : Extra outsider world other) (created : world.store.created = true)
    (uncompiled : Pass.compileIn world.store outsider = .error failure) :
    Leads (runAll engine (before ++ behind)) world fun attempts after =>
      Leads (runAll engine (before ++ outsider :: behind)) other fun attempts' after' =>
        Extra outsider after after' ∧ ∃ first second, attempts = first ++ second ∧
          attempts' = first ++ ⟨outsider.id, .error failure⟩ :: second := by
  induction before generalizing world other with
  | nil =>
    have refusal : Pass.refusal? other.store outsider.id = some failure := by
      rw [extra.store_eq, Pass.refusal?, Store.campaign?_adding_self extra.lacks]
      dsimp only
      rw [if_pos runnable, show Pass.compileIn (world.store.adding outsider) outsider = _ from
        uncompiled]
    have created : other.store.created = true := extra.store_eq ▸ created
    have refused : Leads (runAll engine (outsider :: behind)) other fun attempts after =>
        attempts = ⟨outsider.id, .error failure⟩ :: ((runAll engine behind).run other).1 ∧
          after = ((runAll engine behind).run other).2 := by
      rw [runAll, leads_bind]
      refine Leads.mono (Pass.execute_of_refusal engine created fits refusal) ?_
      rintro _ _ ⟨rfl, rfl⟩
      exact ⟨rfl, rfl⟩
    obtain ⟨same, extra'⟩ := runAll_alike detached others world other extra
    obtain ⟨attempts, after⟩ := refused
    exact ⟨after ▸ extra', [], _, rfl, attempts.trans (congrArg (_ :: ·) same)⟩
  | cons campaign rest ih =>
    obtain ⟨head, tail⟩ := List.forall_mem_cons.mp others
    obtain ⟨same, extra'⟩ := (Extra.parallel detached head).execute world other extra
    have aside := Pass.execute_aside detached.sparesTables campaign.id world
    obtain ⟨extra', first, second, attempts, attempts'⟩ := ih tail extra'
      ((Store.created_of_aside aside).trans created)
      ((Store.compileIn_of_aside aside outsider).trans uncompiled)
    refine ⟨extra', ⟨campaign.id, _⟩ :: first, second, congrArg (_ :: ·) attempts, ?_⟩
    exact congrArg₂ (fun result rest => ⟨campaign.id, result⟩ :: rest) same attempts'

omit [Amount α] in
theorem Sound.of_adding {world : World σ α} (sound : Sound engine (world.adding outsider)) :
    Sound engine world where
  created := sound.created
  sorted := (Store.Sorted.of_adding sound.sorted).1
  fits campaign member := sound.fits campaign (mem_insertById.mpr (.inr member))
  reads campaign member := sound.reads campaign (mem_insertById.mpr (.inr member))

/-- A tick that finds a campaign whose filter does not compile does with the others what it does
without it, and leaves that campaign as it is. -/
theorem tick_outsider (detached : engine.Detached) {world : World σ α} {failure : Failure}
    (sound : Sound engine (world.adding outsider))
    (due : Lifecycle.isDue world.now outsider = true)
    (opened : isOpen engine.settings.zone world.now outsider = .ok true)
    (uncompiled : Pass.compileIn world.store outsider = .error failure) :
    Ends (tick engine) world fun result after =>
      Ends (tick engine) (world.adding outsider) fun result' after' =>
        after' = after.adding outsider ∧ ∃ first second, result = .ok (first ++ second) ∧
          result' = .ok (first ++ ⟨outsider.id, .error failure⟩ :: second) := by
  have lapses : (world.adding outsider).lapsed = world.lapsed.adding outsider := by
    rw [World.lapsed, Store.lapsed_adding world.store (Campaign.not_isOver_of_isDue due)]
  have lacks : world.lapsed.store.Lacks outsider :=
    (Store.Sorted.of_adding sound.sorted).2.of_ids Store.ids_completing
  obtain ⟨before, behind, found, found'⟩ := foundIn_adding due opened world.lapsed.store
  have others : ∀ campaign ∈ before ++ behind, campaign.id ≠ outsider.id := by
    rw [← found]
    exact fun campaign member => lacks campaign (mem_foundIn.mp member).1
  have fits : Cell.fits outsider.id = true := sound.fits outsider (mem_insertById.mpr (.inl rfl))
  have extra : Extra outsider world.lapsed (world.lapsed.adding outsider) := ⟨rfl, rfl, rfl, rfl, lacks⟩
  obtain ⟨extra, first, second, attempts, attempts'⟩ := runAll_outsider detached fits
    (Lifecycle.isRunnable_of_isDue due) others extra sound.created uncompiled
  have here : Scheduler.found engine world = before ++ behind := found
  have there : Scheduler.found engine (world.adding outsider) = before ++ outsider :: behind := by
    rw [← found', Scheduler.found, lapses]
  refine tick_ends sound.of_adding ?_
  rw [here]
  unfold Leads
  refine tick_ends sound ?_
  rw [there, lapses]
  exact ⟨extra.eq, first, second, congrArg Except.ok attempts, congrArg Except.ok attempts'⟩

/-- What a tick has attempted, once what is over has been completed: whatever is due then, each
campaign once and in its order, and nothing that is over. -/
structure Attempted (engine : Engine σ α) (world : World σ α) (lapsed : Store α)
    (attempts : List Attempt) (after : Store α) : Prop where
  each_once : ∃ onces repeats, Lists engine.settings.zone world.now lapsed onces repeats ∧
    attempts.map (·.campaign) = (onces ++ repeats).map (·.id)
  none_over : ∀ campaign ∈ world.store.campaigns, campaign.isOver world.now = true →
    campaign.status = .active → campaign.id ∉ attempts.map (·.campaign)
  none_left : ∀ campaign ∈ after.campaigns, campaign.isOver world.now = true →
    campaign.status ≠ .active

end Scheduler

/-- Whatever its passes come to, a tick attempts each campaign that is due once what is over has
been completed. One more such campaign, whose filter does not compile, fails by itself: it is left
as it is, and all else ends as it would without it. -/
theorem tick_isolates_campaigns [Amount α] {engine : Engine σ α} (spares : engine.SparesTables)
    {world : World σ α} (sound : Scheduler.Sound engine world) :
    Ends (Scheduler.expireEnded world.now) world fun _ lapsed =>
      Ends (Scheduler.tick engine) world fun result after => ∃ attempts, result = .ok attempts ∧
        Scheduler.Attempted engine world lapsed.store attempts after.store ∧
        ∀ outsider failure, engine.Detached →
          Scheduler.Sound engine (world.adding outsider) →
          Lifecycle.isDue world.now outsider = true →
          Scheduler.isOpen engine.settings.zone world.now outsider = .ok true →
          Pass.compileIn world.store outsider = .error failure →
            Ends (Scheduler.tick engine) (world.adding outsider) fun result' after' =>
              after' = after.adding outsider ∧ ∃ first second, attempts = first ++ second ∧
                result' = .ok (first ++ ⟨outsider.id, .error failure⟩ :: second) := by
  refine (Scheduler.expireEnded_ends sound.toKeyed).mono ?_
  rintro _ _ ⟨-, rfl⟩
  obtain ⟨attempts, returns, ids, none_over, none_left⟩ := Scheduler.tick_spares_over spares sound
  refine ⟨attempts, returns, ⟨?_, none_over, none_left⟩, ?_⟩
  · have sorted : world.lapsed.store.Sorted := sound.sorted.of_ids Store.ids_completing
    obtain ⟨onces, repeats, found, lists⟩ := Scheduler.foundIn_lists sorted
    exact ⟨onces, repeats, lists, ids.trans (congrArg _ found)⟩
  · intro outsider failure detached sound due opened uncompiled
    obtain ⟨same, first, second, parts, fails⟩ :=
      Scheduler.tick_outsider detached sound due opened uncompiled
    exact ⟨same, first, second, Except.ok.inj (returns.symm.trans parts), fails⟩

namespace Sample

/-- A campaign that runs once is due, one that repeats too, and one that repeats is over. -/
def crowd : World Unit Binary64 :=
  world (prepared ++ [.operate (.schedule 1 (some dawn)),
    .create "t" recurring, .operate (.activate .utc 2),
    .create "t" { recurring with endsAt := some ⟨dawn, none⟩ }, .operate (.activate .utc 3),
    .credit "t" (Settings.cents 5)])

/-- A campaign that repeats, with a filter that is none. -/
def unfiltered : Campaign Binary64 :=
  { Campaign.ofDraft 9 "t" dawn recurring with status := .active, filter := .text "all" }

/-- Campaigns that may run at every hour of the day can always be told to be due. -/
theorem engine_sound {world : World Unit Binary64} (keyed : world.store.Keyed)
    (windows : world.store.campaigns.all (fun campaign => campaign.window == ⟨none, none⟩) = true)
    (wall : (Zone.utc.wall? world.now).isSome = true) :
    Scheduler.Sound (engine : OperatedEngine Unit Binary64).toEngine world where
  toKeyed := keyed
  reads := by
    refine Scheduler.reads_of_whole (fun campaign member => ?_) wall
    rw [beq_iff_eq.mp (List.all_eq_true.mp windows campaign member)]
    exact ⟨nofun, nofun⟩

theorem crowd_sound : Scheduler.Sound (engine : OperatedEngine Unit Binary64).toEngine crowd :=
  engine_sound ⟨by decide +kernel, by unfold Store.Sorted; decide +kernel, by decide +kernel⟩
    (by decide +kernel) (by decide +kernel)

theorem crowd_adding_keyed : (crowd.store.adding unfiltered).Keyed :=
  ⟨by decide +kernel, by unfold Store.Sorted; decide +kernel, by decide +kernel⟩

theorem crowd_adding_sound : Scheduler.Sound (engine : OperatedEngine Unit Binary64).toEngine
    (crowd.adding unfiltered) :=
  engine_sound crowd_adding_keyed (by decide +kernel) (by decide +kernel)

end Sample

/-- With the third campaign over, a tick attempts the first two, whether there is one more with a
filter that is none or not. -/
theorem sample_tick_isolates_campaigns :
    let engine : Engine Unit Binary64 := (Sample.engine : OperatedEngine Unit Binary64).toEngine
    let other := Sample.crowd.adding Sample.unfiltered
    ∃ failure, (engine.SparesTables ∧ engine.Detached ∧
        Scheduler.Sound engine Sample.crowd ∧ Scheduler.Sound engine other ∧
        Lifecycle.isDue Sample.crowd.now Sample.unfiltered = true ∧
        Scheduler.isOpen engine.settings.zone Sample.crowd.now Sample.unfiltered = .ok true ∧
        Pass.compileIn Sample.crowd.store Sample.unfiltered = .error failure) ∧
      Ends (Scheduler.expireEnded Sample.crowd.now) Sample.crowd fun _ lapsed =>
        Ends (Scheduler.tick engine) Sample.crowd fun result after => ∃ attempts,
          result = .ok attempts ∧
            Scheduler.Attempted engine Sample.crowd lapsed.store attempts after.store ∧
            Ends (Scheduler.tick engine) other fun result' after' =>
              after' = after.adding Sample.unfiltered ∧ ∃ first second,
                attempts = first ++ second ∧
                  result' = .ok (first ++ ⟨9, .error failure⟩ :: second) := by
  intro engine other
  have detached : engine.Detached := Sample.engine_detached
  have due : Lifecycle.isDue Sample.crowd.now Sample.unfiltered = true := by decide +kernel
  have refused : (Pass.compileIn Sample.crowd.store Sample.unfiltered).toOption.isNone = true := by
    decide +kernel
  cases uncompiled : Pass.compileIn Sample.crowd.store Sample.unfiltered with
  | ok predicate =>
    rw [uncompiled] at refused
    cases refused
  | error failure =>
    obtain ⟨attempts, returns, attempted, isolates⟩ :=
      tick_isolates_campaigns detached.sparesTables Sample.crowd_sound
    exact ⟨failure, ⟨detached.sparesTables, detached, Sample.crowd_sound,
      Sample.crowd_adding_sound, due, rfl, rfl⟩, attempts, returns, attempted,
      isolates _ failure detached Sample.crowd_adding_sound due rfl uncompiled⟩

/-- The same campaigns, where the run window of the second one starts at a text. -/
def Sample.muddled : World Unit Binary64 :=
  { crowd with
    store := crowd.store.updateCampaign 2 (fun _ => true) fun campaign =>
      { campaign with window := ⟨some (.text "x"), some (.int 6)⟩ } }

/-- A tick that cannot tell whether a run window is open attempts nothing, not even the campaign
that runs once and is due. -/
theorem unread_window_stops_tick :
    (∃ campaign ∈ Sample.muddled.store.campaigns, campaign.isOneTime = true ∧
      Lifecycle.isDue Sample.muddled.now campaign = true) ∧
    Ends (Scheduler.tick (Sample.engine : OperatedEngine Unit Binary64).toEngine) Sample.muddled
      fun result after => (¬∃ attempts, result = .ok attempts) ∧
        after.store.messages = [] := by
  have fails : Ends (Scheduler.tick (Sample.engine : OperatedEngine Unit Binary64).toEngine)
      Sample.muddled fun result after =>
        result.toOption.isNone = true ∧ after.store.messages.isEmpty = true := by
    unfold Ends Leads
    decide +kernel
  refine ⟨by decide +kernel, ?_⟩
  refine Leads.mono fails fun result after ⟨fails, empty⟩ => ⟨?_, List.isEmpty_iff.mp empty⟩
  rintro ⟨attempts, rfl⟩
  cases fails

end Herald
