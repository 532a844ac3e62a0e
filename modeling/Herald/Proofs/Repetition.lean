import Herald.Proofs.Agreement
import Herald.Proofs.Bulkheads
import Herald.Proofs.Completion

/-! # A tick that is repeated

Whatever a tick finds is either refused before it is claimed, or has left the tick in a state in
which it is not due: it has ended, or waits for a next run that is later than the tick. So a second
tick at the same time finds nothing but what is refused once more.
-/

namespace Herald

variable {σ τ α : Type}

namespace Campaign

variable {settings : Settings} {campaign : Campaign α}

/-- Time passes between two runs of a campaign that repeats, as far as it can be told how much. -/
def Waits (settings : Settings) (campaign : Campaign α) : Prop :=
  campaign.isAutomated = true → ∀ micros,
    (campaign.interval settings).micros .minutes = .ok micros → 0 < micros

/-- A campaign that names a number of minutes waits if that is not negative; nought stands for the
minutes of the settings. -/
theorem waits_of_count (standard : 0 < settings.checkMinutes)
    (counts : ∀ minutes ∈ campaign.checkMinutes, ∃ count : ℕ, minutes = .int count) :
    campaign.Waits settings := by
  have lasts : ∀ count : ℕ, 0 < count → ∀ micros,
      (Cell.int count).micros .minutes = .ok micros → 0 < micros := by
    intro count positive micros lasts
    cases lasts
    exact Int.mul_pos (Int.natCast_pos.mpr positive) (by decide)
  have named : ∃ count : ℕ, campaign.checkMinutes.getD (.int settings.checkMinutes) = .int count := by
    cases names : campaign.checkMinutes with
    | none => exact ⟨_, rfl⟩
    | some minutes => exact counts minutes names
  obtain ⟨count, named⟩ := named
  intro _
  rw [interval, named]
  split
  · exact lasts _ standard
  · rename_i differs
    refine lasts count (Nat.pos_of_ne_zero fun zero => differs ?_)
    rw [zero]
    rfl

theorem waits_of_plan [Amount α] {other : Campaign α} (same : other.plan = campaign.plan)
    (waits : campaign.Waits settings) : other.Waits settings := by
  have repeats : other.isAutomated = campaign.isAutomated :=
    show other.plan.isAutomated = campaign.plan.isAutomated by rw [same]
  have minutes : other.checkMinutes = campaign.checkMinutes :=
    show other.plan.checkMinutes = campaign.plan.checkMinutes by rw [same]
  rw [Waits, interval, repeats, minutes]
  exact waits

end Campaign

/-- The next run of a campaign that waits is later than the run before. -/
theorem Pass.Rescheduled.later [Amount α] {settings : Settings} {campaign row : Campaign α}
    {ran next : Moment} (rescheduled : Rescheduled settings campaign ran next row)
    (waits : campaign.Waits settings) : ran < next := by
  obtain ⟨micros, base, lasts, behind, opens⟩ := nextRun_ok rescheduled.nextRun_eq
  have positive := waits rescheduled.repeats micros lasts
  have after : base.micros ≤ next.micros := RunWindow.base_le_nextOpen opens
  change ran.micros < next.micros
  omega

/-- Where no time passes, the clock goes on showing whatever it shows. -/
theorem Engine.IsCalm.respects_during [Amount α] {engine : Engine σ α} (calm : engine.IsCalm)
    (during : Moment → Prop) : engine.Respects (Pass.During during) :=
  calm.respects_now.mono fun before after same shows => by
    have same : after.now = before.now := same
    rwa [same]

namespace Store

theorem Sorted.campaign?_of_mem {store : Store α} (sorted : store.Sorted) {campaign : Campaign α}
    (member : campaign ∈ store.campaigns) : store.campaign? campaign.id = some campaign :=
  find?_of_nodup (sorted.imp Int.ne_of_lt) member

theorem Keyed.of_aside [Amount α] {before after : Store α} {id : Int} (keyed : before.Keyed)
    (same : after.aside id = before.aside id) : after.Keyed where
  created := (created_of_aside same).trans keyed.created
  sorted := keyed.sorted.of_ids (ids_of_aside same)
  fits campaign member := by
    obtain ⟨old, there, ids, -⟩ := plan_of_aside same member
    exact ids ▸ keyed.fits old there

end Store

namespace Scheduler

variable [Amount α] {engine : Engine σ α} {start : Moment}

/-- Amid a tick that has begun at a time, each campaign that could be found again then is still to
run or is refused. -/
structure Amid (engine : Engine σ α) (start : Moment) (rest : List (Campaign α)) (world : World σ α) :
    Prop where
  keyed : world.store.Keyed
  fits : ∀ campaign ∈ rest, Cell.fits campaign.id = true
  onward : start ≤ world.now
  waits : ∀ row ∈ world.store.campaigns, row.Waits engine.settings
  rested : Rested start rest world.store
  covers : ∀ row ∈ foundIn engine.settings.zone start world.store,
    row.id ∈ rest.map Campaign.id ∨ ∃ failure, Pass.compileIn world.store row = .error failure

omit [Amount α] in
/-- What is due is refused only if its filter does not compile. -/
theorem refusal?_of_isDue {store : Store α} (sorted : store.Sorted) {row : Campaign α}
    (member : row ∈ store.campaigns) (due : Lifecycle.isDue start row = true) {failure : Failure} :
    Pass.refusal? store row.id = some failure ↔ Pass.compileIn store row = .error failure := by
  rw [Pass.refusal?, sorted.campaign?_of_mem member]
  dsimp only
  rw [if_pos (Lifecycle.isRunnable_of_isDue due)]
  cases Pass.compileIn store row with
  | ok predicate => simp only [reduceCtorEq]
  | error other => simp only [Option.some.injEq, Except.error.injEq]

omit [Amount α] in
theorem Amid.next {campaign : Campaign α} {rest : List (Campaign α)} {world : World σ α}
    (amid : Amid engine start (campaign :: rest) world) (rested : Rested start rest world.store)
    (own : ∀ row ∈ foundIn engine.settings.zone start world.store, row.id = campaign.id →
      ∃ failure, Pass.compileIn world.store row = .error failure) : Amid engine start rest world where
  keyed := amid.keyed
  fits := (List.forall_mem_cons.mp amid.fits).2
  onward := amid.onward
  waits := amid.waits
  rested := rested
  covers row found := by
    rcases amid.covers row found with among | refused
    · rcases List.mem_cons.mp among with same | later
      · exact .inr (own row found same)
      · exact .inl later
    · exact .inr refused

/-- Behind its pass, a campaign is refused or waits for later. -/
theorem Amid.pass (spares : engine.SparesTables)
    (forward : engine.Respects (Pass.During (start ≤ ·))) {campaign : Campaign α}
    {rest : List (Campaign α)} {world : World σ α}
    (amid : Amid engine start (campaign :: rest) world) :
    Ends (Pass.execute engine campaign.id) world fun _ after => Amid engine start rest after := by
  obtain ⟨fits, others⟩ := List.forall_mem_cons.mp amid.fits
  have asides := (Pass.execute_aside spares campaign.id).leads world
  cases refusal : Pass.refusal? world.store campaign.id with
  | some failure =>
    have refused := Pass.execute_of_refusal engine amid.keyed.created fits refusal
    refine (asides.and refused).mono ?_
    rintro _ after ⟨same, -, rfl⟩
    refine amid.next (amid.rested.pass rfl) fun row found own => ⟨failure, ?_⟩
    obtain ⟨member, due, -⟩ := mem_foundIn.mp found
    exact (refusal?_of_isDue amid.keyed.sorted member due).mp (own ▸ refusal)
  | none =>
    have departs := Pass.execute_departed spares.operated forward amid.keyed.created fits refusal
      amid.onward
    have clock := (Pass.execute_moves forward campaign.id).leads world
    refine ((asides.and departs).and clock).mono ?_
    rintro _ after ⟨⟨same, departs⟩, clock⟩
    have keyed := amid.keyed.of_aside same
    have waits : ∀ row ∈ after.store.campaigns, row.Waits engine.settings := by
      intro row member
      obtain ⟨old, there, -, plan⟩ := Store.plan_of_aside same member
      exact Campaign.waits_of_plan plan (amid.waits old there)
    refine ⟨keyed, others, clock amid.onward, waits, amid.rested.pass same, fun row found => ?_⟩
    obtain ⟨member, due, opened⟩ := mem_foundIn.mp found
    by_cases own : row.id = campaign.id
    · -- A campaign that has run is active only if it waits for a next run, and that is still to come.
      obtain ⟨ran, next, since, rescheduled⟩ := departs row
        (own ▸ keyed.sorted.campaign?_of_mem member) (Lifecycle.isRunnable_of_isDue due)
      have early : start < next := Nat.lt_of_le_of_lt since (rescheduled.later (waits row member))
      cases (Lifecycle.not_isDue_before rescheduled.repeats rescheduled.nextRunAt early).symm.trans due
    · have there := mem_foundIn.mpr ⟨Store.mem_of_aside same member own, due, opened⟩
      rcases amid.covers row there with among | ⟨failure, refused⟩
      · exact .inl ((List.mem_cons.mp among).resolve_left own)
      · exact .inr ⟨failure, (Store.compileIn_of_aside same row).trans refused⟩

/-! ## Idle tables -/

/-- Tables in which a tick at this time changes nothing: what is over has been completed, and
whatever is found is refused. -/
structure Idle (zone : Zone) (now : Moment) (store : Store α) : Prop where
  keyed : store.Keyed
  lapsed : store.lapsed now = store
  refuses : ∀ campaigns, openOnes zone now (Lifecycle.dueIn now store) = .ok campaigns →
    ∀ row ∈ campaigns, ∃ failure, Pass.compileIn store row = .error failure

/-- Behind a tick, the tables are idle at the time of the tick. -/
theorem tick_idles (spares : engine.SparesTables) {world : World σ α}
    (forward : engine.Respects (Pass.During (world.now ≤ ·))) (keyed : world.store.Keyed)
    (waits : ∀ campaign ∈ world.store.campaigns, campaign.Waits engine.settings) :
    Ends (tick engine) world fun _ after => Idle engine.settings.zone world.now after.store := by
  have settled : world.lapsed.store.Keyed := keyed.lapsed
  refine tick_tells keyed ?_
  split
  · -- No pass has begun, and what could not be told cannot be told again.
    rename_i failure told
    refine ⟨settled, Store.lapsed_eq_self fun _ => Store.lapsed_not_active, fun campaigns found => ?_⟩
    cases told.symm.trans found
  · rename_i campaigns told
    cases foundIn_of_told told
    have start : Amid engine world.now (found engine world) world.lapsed := by
      refine ⟨settled, fun campaign among => settled.fits campaign (mem_foundIn.mp among).1,
        Nat.le_refl _, fun row member => ?_, rested_lapsed keyed.sorted, fun row found => ?_⟩
      · obtain ⟨old, there, rfl⟩ := Store.mem_completing member
        split <;> exact waits old there
      · exact .inl (List.mem_map_of_mem found)
    refine (runAll_leads (I := Amid engine world.now)
      (fun campaign rest before amid => amid.pass spares forward) start).mono ?_
    rintro attempts after ⟨-, amid⟩
    refine ⟨amid.keyed, Store.lapsed_eq_self amid.rested.waits, fun campaigns told row among => ?_⟩
    exact (amid.covers row (foundIn_of_told told ▸ among)).resolve_left List.not_mem_nil

/-- Passes that are refused change nothing. -/
theorem runAll_refused {world : World σ α} (created : world.store.created = true)
    {campaigns : List (Campaign α)} (refused : ∀ campaign ∈ campaigns,
      Cell.fits campaign.id = true ∧
        ∃ failure, Pass.refusal? world.store campaign.id = some failure) :
    Leads (runAll engine campaigns) world fun attempts after => after = world ∧
      ∀ attempt ∈ attempts, ∃ failure, attempt.result = .error failure ∧
        Pass.refusal? world.store attempt.campaign = some failure := by
  induction campaigns with
  | nil => exact ⟨rfl, List.forall_mem_nil _⟩
  | cons campaign rest ih =>
    obtain ⟨⟨fits, failure, refusal⟩, others⟩ := List.forall_mem_cons.mp refused
    rw [runAll, leads_bind]
    refine Leads.mono (Pass.execute_of_refusal engine created fits refusal) ?_
    rintro _ _ ⟨rfl, rfl⟩
    rw [leads_bind]
    refine (ih others).mono ?_
    rintro attempts _ ⟨rfl, fail⟩
    exact ⟨rfl, List.forall_mem_cons.mpr ⟨⟨failure, rfl, refusal⟩, fail⟩⟩

/-- In idle tables a tick changes nothing, and whatever it attempts is refused. -/
theorem Idle.stays {world : World σ α}
    (idle : Idle engine.settings.zone world.now world.store) :
    Ends (tick engine) world fun result after => after = world ∧
      ∀ attempts, result = .ok attempts → ∀ attempt ∈ attempts, ∃ failure,
        attempt.result = .error failure ∧
          Pass.refusal? world.store attempt.campaign = some failure := by
  refine tick_tells idle.keyed ?_
  rw [World.lapsed, idle.lapsed]
  split
  · exact ⟨rfl, fun _ same => by cases same⟩
  · rename_i campaigns told
    refine (runAll_refused idle.keyed.created fun row among => ?_).mono ?_
    · obtain ⟨member, due, -⟩ := mem_foundIn.mp (foundIn_of_told told ▸ among)
      obtain ⟨failure, fails⟩ := idle.refuses campaigns told row among
      exact ⟨idle.keyed.fits row member, failure,
        (refusal?_of_isDue idle.keyed.sorted member due).mpr fails⟩
    · rintro attempts _ ⟨rfl, fail⟩
      exact ⟨rfl, fun _ same => Except.ok.inj same ▸ fail⟩

/-! ## What a tick asks -/

section Recorded

variable {ν : Type} (note : Option Request → World σ α → World σ α → ν)

omit [Amount α] in
theorem expireEnded_recorded (now : Moment) : Alike Plain (expireEnded now : Run σ α ℕ).run
    (expireEnded now : Run (σ × List ν) α ℕ).run := by
  refine alike_run_bind shares_plain.query fun campaigns => ?_
  induction campaigns with
  | nil => exact alike_run_pure
  | cons first rest ih =>
    exact alike_run_bind (shares_plain.transition first.id _ _) fun _ =>
      alike_run_bind ih fun _ => alike_run_pure

theorem runAll_recorded (engine : Engine σ α) (campaigns : List (Campaign α)) :
    Alike Plain (runAll engine campaigns) (runAll (engine.recording note) campaigns) := by
  induction campaigns with
  | nil => exact alike_pure
  | cons first rest ih =>
    exact alike_bind (Pass.execute_recorded engine note first.id) fun _ =>
      alike_bind ih fun _ => alike_pure

/-- A tick with notes is the tick itself. -/
theorem tick_recorded (engine : Engine σ α) :
    Alike Plain (tick engine).run (tick (engine.recording note)).run :=
  alike_run_bind shares_plain.clock fun now =>
    alike_run_bind (expireEnded_recorded now) fun _ =>
      alike_run_bind (alike_run_bind shares_plain.query fun _ => alike_pure?) fun campaigns =>
        alike_lift (runAll_recorded note engine campaigns)

end Recorded

/-- The requests of a tick, in their order; there is none where a campaign is about to be moved
on. -/
def requests (engine : Engine σ α) (world : World σ α) : List (Option Request) :=
  ((tick engine.asking).run.run (world.beside [])).2.outside.2

/-- In idle tables a tick asks nobody. -/
theorem Idle.asks_nobody {world : World σ α}
    (idle : Idle engine.settings.zone world.now world.store) : requests engine world = [] := by
  let start : World (σ × List (Option Request)) α := world.beside []
  have idle : Idle engine.asking.settings.zone start.now start.store := idle
  have same : ((tick engine.asking).run.run start).2 = start := idle.stays.1
  rw [requests, same]
  rfl

end Scheduler

/-- If nobody but its passes acts while a tick runs, and time does not go back, a second tick at the
same time does nothing: it asks no provider, it leaves everything as it is, and whatever it attempts
is refused. What is outside may have become anything in between. -/
theorem second_tick_does_nothing [Amount α] {engine : Engine σ α} (spares : engine.SparesTables)
    {world : World σ α} (forward : engine.Respects (Pass.During (world.now ≤ ·)))
    (keyed : world.store.Keyed)
    (waits : ∀ campaign ∈ world.store.campaigns, campaign.Waits engine.settings) :
    Ends (Scheduler.tick engine) world fun _ after =>
      ∀ {τ : Type} (again : Engine τ α) (journal : List String) (outside : τ),
        again.settings = engine.settings →
          let later : World τ α := ⟨after.store, world.now, journal, outside⟩
          Scheduler.requests again later = [] ∧
            Ends (Scheduler.tick again) later fun result final => final = later ∧
              ∀ attempts, result = .ok attempts → ∀ attempt ∈ attempts, ∃ failure,
                attempt.result = .error failure ∧
                  Pass.refusal? later.store attempt.campaign = some failure := by
  have idles := Scheduler.tick_idles spares forward keyed waits
  unfold Ends at idles ⊢
  refine idles.mono ?_
  intro _ after idle τ again journal outside same
  rw [← same] at idle
  exact ⟨idle.asks_nobody, idle.stays⟩

namespace Sample

theorem crowd_waits :
    ∀ campaign ∈ (crowd.store.adding unfiltered).campaigns, campaign.Waits settings := by
  have standard : (crowd.store.adding unfiltered).campaigns.all
      (fun campaign => campaign.checkMinutes == none) = true := by decide +kernel
  intro campaign member
  refine Campaign.waits_of_count (by decide) ?_
  rw [beq_iff_eq.mp (List.all_eq_true.mp standard campaign member)]
  exact nofun

end Sample

/-- The campaign whose filter is none is found by both ticks, and the second one does nothing. -/
theorem sample_second_tick_does_nothing :
    let engine : Engine Unit Binary64 := (Sample.engine : OperatedEngine Unit Binary64).toEngine
    let world := Sample.crowd.adding Sample.unfiltered
    (engine.SparesTables ∧ engine.Respects (Pass.During (world.now ≤ ·)) ∧ world.store.Keyed ∧
      ∀ campaign ∈ world.store.campaigns, campaign.Waits engine.settings) ∧
    Ends (Scheduler.tick engine) world fun _ after =>
      let later : World Unit Binary64 := ⟨after.store, world.now, [], ()⟩
      Scheduler.requests engine later = [] ∧
        Ends (Scheduler.tick engine) later fun result final => final = later ∧
          ∀ attempts, result = .ok attempts → ∀ attempt ∈ attempts, ∃ failure,
            attempt.result = .error failure ∧
              Pass.refusal? later.store attempt.campaign = some failure := by
  intro engine world
  have calm : engine.IsCalm := Sample.engine_calm
  have forward : engine.Respects (Pass.During (world.now ≤ ·)) := calm.respects_during _
  have keyed : world.store.Keyed := Sample.crowd_adding_keyed
  exact ⟨⟨calm.sparesTables, forward, keyed, Sample.crowd_waits⟩,
    second_tick_does_nothing calm.sparesTables forward keyed Sample.crowd_waits engine [] () rfl⟩

/-- A campaign that repeats is active, and its interval is an hour backwards. -/
def Sample.hasty : World Unit Binary64 :=
  let start : World Unit Binary64 := world [.elapse noon (), .create "t" recurring,
    .upsert ⟨"t", .customer, []⟩ [] .null [("phone", .text "123")],
    .operate (.activate .utc 1), .credit "t" (Settings.cents 20)]
  { start with
    store := start.store.updateCampaign 1 (fun _ => true) fun campaign =>
      { campaign with checkMinutes := some (.int (-60)) } }

/-- Where time runs backwards between the passes of a campaign, a second tick at the same time sends
its messages once more. -/
theorem hasty_second_tick_sends :
    Sample.hasty.store.Keyed ∧
    let engine : Engine Unit Binary64 := (Sample.engine : OperatedEngine Unit Binary64).toEngine
    Ends (Scheduler.tick engine) Sample.hasty fun _ after =>
      Ends (Scheduler.tick engine) after fun _ final => after.now = Sample.hasty.now ∧
        after.store.messages.length = 1 ∧ final.store.messages.length = 2 := by
  refine ⟨⟨by decide +kernel, ?_, by decide +kernel⟩, ?_⟩
  · unfold Store.Sorted
    decide +kernel
  · unfold Ends Leads
    decide +kernel

end Herald
