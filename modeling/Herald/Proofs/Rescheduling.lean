import Herald.Proofs.Openings
import Herald.Proofs.Outcomes

/-! # How a pass leaves its campaign waiting

A pass that has claimed its campaign has it to itself until it moves it on. So where a later pass
may begin behind it, the campaign repeats and is active again, and its next run has been computed
from the time at which this one ended.
-/

namespace Herald

variable {σ α : Type} [Amount α]

/-- The minutes between two passes of a campaign: its own, or those of the settings. -/
def Campaign.interval (settings : Settings) (campaign : Campaign α) : Cell :=
  let minutes := campaign.checkMinutes.getD (.int settings.checkMinutes)
  if minutes.isZero then .int settings.checkMinutes else minutes

namespace Pass

variable {settings : Settings} {campaign row : Campaign α} {ran next : Moment}

omit [Amount α] in
/-- The next run is the next opening of the window behind the interval. -/
theorem nextRun_ok (found : nextRun settings campaign ran = .ok next) : ∃ micros base,
    (campaign.interval settings).micros .minutes = .ok micros ∧
      (base.micros : Int) = ran.micros + micros ∧
      campaign.window.nextOpen settings.zone base = .ok next := by
  obtain ⟨micros, lasts, found⟩ := ok_of_bind found
  obtain ⟨base, later, found⟩ := ok_of_bind found
  refine ⟨micros, base, lasts, ?_, found⟩
  cases moved : ran.later micros with
  | error fault =>
    rw [moved] at later
    cases later
  | ok moment =>
    rw [moved] at later
    cases later
    exact Moment.micros_of_later moved

/-- When a campaign runs next is a matter of its plan. -/
theorem nextRun_of_plan {other : Campaign α} (plan : other.plan = campaign.plan) :
    nextRun settings other ran = nextRun settings campaign ran := by
  have minutes : other.plan.checkMinutes = campaign.plan.checkMinutes := by rw [plan]
  have window : other.plan.window = campaign.plan.window := by rw [plan]
  have minutes : other.checkMinutes = campaign.checkMinutes := minutes
  have window : other.window = campaign.window := window
  rw [nextRun, minutes, window, nextRun]

/-- The row of a campaign that its pass has left waiting for the next one. -/
structure Rescheduled (settings : Settings) (campaign : Campaign α) (ran next : Moment)
    (row : Campaign α) : Prop where
  repeats : campaign.isAutomated = true
  active : row.status = .active
  lastRunAt : row.lastRunAt = some ran
  nextRunAt : row.nextRunAt = some next
  nextRun_eq : nextRun settings campaign ran = .ok next

theorem Rescheduled.of_plan {other : Campaign α}
    (rescheduled : Rescheduled settings campaign ran next row) (plan : other.plan = campaign.plan) :
    Rescheduled settings other ran next row where
  repeats := (show other.plan.isAutomated = campaign.plan.isAutomated by rw [plan]).trans
    rescheduled.repeats
  active := rescheduled.active
  lastRunAt := rescheduled.lastRunAt
  nextRunAt := rescheduled.nextRunAt
  nextRun_eq := (nextRun_of_plan plan).trans rescheduled.nextRun_eq

/-- What a tally adds up to is nothing to when its campaign runs. -/
theorem Rescheduled.summed {old : Campaign α} {id : Int} {tally : Tally} {count : Option Cell}
    {now : Moment} (rescheduled : Rescheduled settings campaign ran next old)
    (sums : Campaign.Sums id tally count now old row) :
    Rescheduled settings campaign ran next row := by
  unfold Campaign.Sums at sums
  split at sums
  · obtain ⟨sms, email, -, -, rfl⟩ := sums
    exact ⟨rescheduled.repeats, rescheduled.active, rescheduled.lastRunAt, rescheduled.nextRunAt,
      rescheduled.nextRun_eq⟩
  · rwa [sums]

/-- If another pass of the campaign may begin, this one has rescheduled it at one of these times. -/
def Departed (settings : Settings) (during : Moment → Prop) (campaign : Campaign α)
    (store : Store α) : Prop :=
  ∀ row, store.campaign? campaign.id = some row → row.status.isRunnable = true →
    ∃ ran next, during ran ∧ Rescheduled settings campaign ran next row

/-- The clock goes on showing one of these times. -/
def During (during : Moment → Prop) (before after : World σ α) : Prop :=
  during before.now → during after.now

instance (during : Moment → Prop) : IsPreorder (World σ α) (During during) where
  refl _ := id
  trans _ _ _ first second := second ∘ first

section Departed

variable {engine : Engine σ α} {id : Int} {during : Moment → Prop} {flag : σ → Prop}
  {world : World σ α}

omit [Amount α] in
/-- No pass may begin while this one is not over, or once it has been cancelled. -/
theorem departed_of_guarded (guarded : Guarded campaign.id flag world) :
    Departed settings during campaign world.store := by
  intro row found runnable
  have status : world.status? campaign.id = some row.status := by rw [World.status?, found]; rfl
  rcases guarded with sending | ⟨cancelled, _⟩
  · cases Option.some.inj (status.symm.trans sending) ▸ runnable
  · cases Option.some.inj (status.symm.trans cancelled) ▸ runnable

omit [Amount α] in
/-- Another pass may begin behind this one only if the next run has been computed. -/
theorem leaving_runnable {outOfBalance : Bool} {leaving : Leaving}
    (leaves : Pass.leaving settings campaign outOfBalance ran = .ok leaving)
    (runnable : leaving.status.isRunnable = true) : campaign.isAutomated = true ∧ ∃ next,
      nextRun settings campaign ran = .ok next ∧ leaving = ⟨.active, none, none, some next⟩ := by
  unfold Pass.leaving at leaves
  split at leaves
  · cases leaves
    cases runnable
  · split at leaves
    · cases leaves
      cases runnable
    · rename_i goesOn
      cases next : nextRun settings campaign ran with
      | error failure =>
        rw [next] at leaves
        cases leaves
      | ok time =>
        rw [next] at leaves
        cases leaves
        simp only [Bool.not_eq_true, Bool.or_eq_false_iff, Bool.not_eq_false'] at goesOn
        exact ⟨goesOn.1, time, rfl, rfl⟩

omit [Amount α] in
/-- A pass that moves its campaign on leaves it waiting, or no pass may begin. -/
theorem finish_departed (guarding : engine.Guarding campaign.id flag) (stopped : Option Stopped)
    (guarded : Guarded campaign.id flag world) (now : during world.now) :
    Ends (finish engine campaign stopped) world fun _ after =>
      Departed engine.settings during campaign after.store := by
  rw [finish, ends_bind, ends_clock]
  dsimp only
  split
  · rw [ends_bind]
    refine leads_of_still (Lifecycle.status?_moves campaign.id) fun result => ?_
    cases result <;> exact departed_of_guarded guarded
  · rw [ends_bind, ends_pure?]
    cases leaves : leaving engine.settings campaign (stopped == some .outOfBalance) world.now with
    | error failure => exact departed_of_guarded guarded
    | ok leaving =>
      dsimp only
      rw [ends_bind]
      refine (guarding.beforeFinish.leads world).mono fun prepared later guards => ?_
      have guarded := guards.guarded guarded
      cases prepared with
      | error failure => exact departed_of_guarded guarded
      | ok _ =>
        dsimp only
        rw [ends_bind]
        refine Leads.mono (Lifecycle.transition_ends campaign.id (· == .sending) _ later) ?_
        rintro (failure | changed) after wrote
        · rw [show after = later from wrote]
          exact departed_of_guarded guarded
        · have departed : Departed engine.settings during campaign after.store := by
            intro row found runnable
            rw [wrote.2] at found
            replace found := (campaign?_updateCampaign _ campaign.id campaign.id _
              (fun _ => by rfl)).symm.trans found
            obtain ⟨old, there, rfl⟩ := Option.map_eq_some_iff.mp found
            split at runnable
            · rename_i sending
              rw [if_pos sending]
              obtain ⟨again, next, computed, rfl⟩ := leaving_runnable leaves runnable
              exact ⟨world.now, next, now, again, rfl, rfl, rfl, computed⟩
            · rename_i waits
              rw [if_neg waits]
              exact departed_of_guarded guarded old there runnable
          cases changed with
          | true => exact departed
          | false =>
            dsimp only
            rw [if_neg Bool.false_ne_true, ends_bind]
            refine leads_of_still (Lifecycle.status?_moves campaign.id) fun result => ?_
            cases result <;> exact departed

/-- Once a campaign has departed, the record of its pass leaves that so. -/
theorem close_departed (campaign : Campaign α) (settings : Settings) (during : Moment → Prop)
    (isTest : Bool) (ledger : Ledger)
    (ended : Except Failure (Option CampaignStatus × Option Moment)) :
    Moves (Keeps (Departed settings during campaign) : World σ α → World σ α → Prop)
      (close campaign isTest ledger ended).run := by
  have journals : ∀ line, Moves (Keeps (Departed settings during campaign))
      (Run.record line : Run σ α Unit).run := fun _ _ departed => departed
  refine close_moves_of (fun tally count => Lifecycle.apply_moves fun world campaigns sums => ?_)
    (fun reason => moves_run_bind moves_clock fun now => moves_iff.mpr fun world => ?_) journals
    isTest ledger ended
  · intro departed row found runnable
    have related := campaign?_sums sums campaign.id
    rw [found] at related
    cases before : world.store.campaign? campaign.id with
    | none =>
      rw [before] at related
      cases related
    | some old =>
      rw [before] at related
      obtain ⟨sums⟩ := related
      obtain ⟨ran, next, inside, rescheduled⟩ := departed old before (sums.status_eq ▸ runnable)
      exact ⟨ran, next, inside, rescheduled.summed sums⟩
  · refine Leads.mono (Lifecycle.transition_ends campaign.id (· == .sending) _ world) ?_
    rintro (failure | changed) after wrote departed
    · rw [show after = world from wrote]
      exact departed
    · intro row found runnable
      rw [wrote.2] at found
      replace found := (campaign?_updateCampaign _ campaign.id campaign.id _
        (fun _ => by rfl)).symm.trans found
      obtain ⟨old, there, rfl⟩ := Option.map_eq_some_iff.mp found
      split at runnable
      · cases runnable
      · rename_i waits
        rw [if_neg waits]
        exact departed old there runnable

/-- What follows a walk leaves the campaign waiting, or no pass may begin. -/
theorem conclude_departed {setting : Setting α} (own : setting.campaign.id = id)
    (guarding : engine.Guarding id flag) (walked : Progress × Option Failure)
    (guarded : Guarded id flag world) (now : during world.now) :
    Ends (setting.conclude engine walked) world fun _ after =>
      Departed engine.settings during setting.campaign after.store := by
  subst own
  have closes : ∀ (middle : World σ α) ledger ended,
      Departed engine.settings during setting.campaign middle.store →
        Ends (close setting.campaign setting.isTest ledger ended) middle fun _ after =>
          Departed engine.settings during setting.campaign after.store :=
    fun middle ledger ended departed =>
      have keeps := close_departed setting.campaign engine.settings during setting.isTest ledger ended
      (keeps.leads middle).mono fun _ _ keeps => keeps departed
  rcases walked with ⟨progress, _ | failure⟩
  · rw [Setting.conclude, ends_bind, ends_attempt]
    have guards := (Lifecycle.apply_guards setting.campaign.id setting.campaign.id flag
      progress.tally (some setting.count)).leads world
    have stays : Moves (Agree fun world : World σ α => world.now)
        (Lifecycle.apply setting.campaign.id progress.tally (some setting.count)).run :=
      Lifecycle.apply_moves fun _ _ _ => rfl
    refine (guards.and (stays.leads world)).mono ?_
    rintro (failure | applied) middle ⟨guards, same⟩
    · exact closes middle _ _ (departed_of_guarded (guards.guarded guarded))
    · dsimp only
      rw [ends_bind, ends_attempt]
      have now : during middle.now := (show middle.now = world.now from same) ▸ now
      exact (finish_departed guarding progress.stopped (guards.guarded guarded) now).mono
        fun ended later departed => closes later _ ended departed
  · exact closes world _ _ (departed_of_guarded guarded)

end Departed

/-- Behind a pass that has claimed its campaign, another one may begin only as it has been computed
from the time at which this one ended. -/
theorem execute_departed (engine : OperatedEngine σ α) {id : Int} {during : Moment → Prop}
    {world : World σ α} (respects : engine.toEngine.Respects (During during))
    (created : world.store.created = true) (fits : Cell.fits id = true)
    (claims : refusal? world.store id = none) (now : during world.now) :
    Ends (execute engine.toEngine id) world fun _ after => ∀ row,
      after.store.campaign? id = some row → row.status.isRunnable = true →
        ∃ ran next, during ran ∧ Rescheduled engine.settings row ran next row := by
  have guarding := (engine.attended id).guarding
  have plans := (execute_moves engine.respects_plans id).leads world
  suffices departs : Ends (execute engine.toEngine id) world fun _ after => ∃ old campaign,
      world.store.campaign? id = some old ∧ campaign.id = id ∧ campaign.plan = old.plan ∧
        Departed engine.settings during campaign after.store by
    refine (departs.and plans).mono ?_
    rintro _ after ⟨⟨old, campaign, found, own, planned, departed⟩, plans⟩ row there runnable
    obtain ⟨ran, next, inside, rescheduled⟩ := departed row (own ▸ there) runnable
    have same : some row.plan = some old.plan := by
      have same := Store.campaign?_plans plans id
      rwa [there, found] at same
    have same : row.plan = campaign.plan := (Option.some.inj same).trans planned.symm
    exact ⟨ran, next, inside, rescheduled.of_plan same⟩
  refine execute_claims created fits (fun failure refusal => ?_) ?_ ?_
  · cases claims.symm.trans refusal
  · intro old campaign isTest count failure middle _ claims
    have closes := (close_departed campaign engine.settings during isTest ⟨.start, count, false⟩
      (.error failure)).leads middle
    refine closes.mono fun _ after keeps => ?_
    have guarded : Guarded campaign.id (fun _ => True) middle := claims.id_eq ▸ claims.guarded
    exact ⟨old, campaign, claims.found, claims.id_eq, claims.campaign_eq ▸ rfl,
      keeps (departed_of_guarded guarded)⟩
  · intro setting middle _ walks
    obtain ⟨old, claims, -⟩ := walks.claims
    have guarded : Guarded id (fun _ => True) middle := claims.guarded
    refine ((walk_guarded guarding claims.id_eq guarded).and
      ((walk_moves respects.toReaches setting).leads middle)).mono ?_
    rintro walked later ⟨⟨guarded, -⟩, onward⟩
    refine (conclude_departed claims.id_eq guarding walked guarded
      (onward (claims.now_eq ▸ now))).mono fun _ after departed => ?_
    exact ⟨old, setting.campaign, claims.found, claims.id_eq, claims.campaign_eq ▸ rfl, departed⟩

end Pass

end Herald
