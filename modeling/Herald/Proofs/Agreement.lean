import Herald.Proofs.Due
import Herald.Proofs.Rescheduling

/-! # When a campaign that repeats is due again

Whoever says when a campaign runs next looks at its run window, and so does the scheduler, at the
time of each tick. Both are of one mind: the campaign is not due before the time of its next run,
which is the first one at which its window is open again, and at that time it is due.
-/

namespace Herald

variable {σ α : Type}

namespace Scheduler

/-- The scheduler agrees about the next run of a campaign, which has been looked for from some time
on. Until then the run window is closed. Whatever other campaigns there are, this one is not due
before, and then it is, unless its end date has come or summer time takes the first hour of its
window away that day. -/
structure Agrees (engine : Engine σ α) (campaign : Campaign α) (base next : Moment) : Prop where
  active : campaign.status = .active
  nextRunAt : campaign.nextRunAt = some next
  later : base ≤ next
  closed : ∀ time : Moment, base ≤ time → time < next →
    campaign.window.isOpenAt engine.settings.zone time ≠ .ok true
  early : ∀ (world : World σ α) (now : Moment), world.store.created = true →
    Reads engine.settings.zone now world.store → now < next →
      Ends (due engine now) world fun result after => after = world ∧
        ∃ campaigns, result = .ok campaigns ∧ campaign ∉ campaigns
  punctual : ∀ world : World σ α, world.store.created = true →
    Reads engine.settings.zone next world.store → campaign ∈ world.store.campaigns →
      campaign.hasEnded next = false →
        engine.settings.zone.summer? = none ∨ campaign.window.StartsOn engine.settings.zone next →
          Ends (due engine next) world fun result after => after = world ∧
            ∃ campaigns, result = .ok campaigns ∧ campaign ∈ campaigns

/-- The scheduler agrees about a next run that opens the run window first. -/
theorem agrees_of_opensFirst {engine : Engine σ α} {campaign : Campaign α} {base next : Moment}
    (active : campaign.status = .active) (again : campaign.isAutomated = true)
    (waits : campaign.nextRunAt = some next)
    (first : campaign.window.OpensFirst engine.settings.zone base next) :
    Agrees engine campaign base next where
  active := active
  nextRunAt := waits
  later := first.later
  closed := first.closed
  early world now created reads before := by
    refine (due_ok created reads).mono ?_
    rintro _ _ ⟨same, rfl⟩
    refine ⟨same, _, rfl, fun member => ?_⟩
    have due := (mem_foundIn.mp member).2.1
    rw [Lifecycle.not_isDue_before again waits before] at due
    cases due
  punctual world created reads member goesOn starts := by
    refine (due_ok created reads).mono ?_
    rintro _ _ ⟨same, rfl⟩
    refine ⟨same, _, rfl, mem_foundIn.mpr ⟨member, ?_, ?_⟩⟩
    · exact Lifecycle.isDue_of_active active again goesOn (by rw [waits]; exact Nat.le_refl _)
    · rw [isOpen, if_pos again]
      exact first.opens starts

end Scheduler

namespace Lifecycle

variable {id : Int} {world : World σ α}

/-- An operator is handed the campaign that has been changed, as it stands in the tables. -/
theorem require_hands (id : Int) (changed : Bool) (action : String) (world : World σ α) :
    Ends (require id changed action) world fun result after => after = world ∧
      ∀ campaign, result = .ok campaign →
        changed = true ∧ world.store.campaign? id = some campaign := by
  rw [require, ends_bind]
  refine leads_of_still (status?_moves id) fun status => ?_
  cases status with
  | error failure => exact ⟨rfl, fun _ same => by cases same⟩
  | ok status =>
    dsimp only
    cases changed with
    | false => exact ⟨rfl, fun _ same => by cases same⟩
    | true =>
      rw [if_pos rfl, ends_bind]
      refine Leads.mono (Operation.get?_found id world) ?_
      rintro (failure | _ | campaign) after ⟨rfl, found⟩
      · exact ⟨rfl, fun _ same => by cases same⟩
      · exact ⟨rfl, fun _ same => by cases same⟩
      · refine ⟨rfl, ?_⟩
        rintro _ ⟨⟩
        exact ⟨rfl, found _ rfl⟩

/-- What an operator is handed is the campaign as the transition has changed it. -/
theorem transition_required {allowed : CampaignStatus → Bool} {change : Campaign α → Campaign α}
    (ids : ∀ campaign, (change campaign).id = campaign.id) (action : String) :
    Ends (do require id (← transition id allowed change) action) world fun result after =>
      ∀ campaign, result = .ok campaign → after.store.campaign? id = some campaign ∧
        ∃ old, world.store.campaign? id = some old ∧
          campaign = { change old with updatedAt := world.now } := by
  rw [ends_bind]
  cases found : world.store.campaign? id with
  | none =>
    refine Leads.mono (transition_ends id allowed change world) ?_
    rintro (failure | changed) after wrote
    · exact fun _ same => by cases same
    · refine (require_hands id changed action after).mono fun result later hands campaign same => ?_
      have happens := (hands.2 campaign same).1
      rw [found, Option.any_none] at wrote
      cases wrote.1.symm.trans happens
  | some old =>
    refine Leads.mono (transition_found id allowed ids found) ?_
    rintro (failure | changed) after wrote
    · exact fun _ same => by cases same
    · refine (require_hands id changed action after).mono ?_
      rintro result _ ⟨rfl, hands⟩ campaign same
      obtain ⟨rfl, there⟩ := hands campaign same
      refine ⟨there, old, rfl, ?_⟩
      rw [found, Option.any_some] at wrote
      rw [campaign?_id found, BEq.rfl, Bool.true_and, ← wrote.1, if_pos rfl] at wrote
      exact Option.some.inj (there.symm.trans wrote.2)

/-- A campaign that has been activated: it waits for the next opening of its window. -/
def Activated (zone : Zone) (world : World σ α) (campaign : Campaign α) : Prop :=
  ∃ old next, old ∈ world.store.campaigns ∧ old.isAutomated = true ∧
    old.window.nextOpen zone world.now = .ok next ∧ campaign = { old with
      status := .active, nextRunAt := some next, pauseReason := none, updatedAt := world.now }

theorem activate_hands (zone : Zone) (id : Int) (world : World σ α) :
    Ends (activate zone id) world fun result after => ∀ campaign, result = .ok campaign →
      after.store.campaign? id = some campaign ∧ Activated zone world campaign := by
  rw [activate, ends_bind]
  refine Leads.mono (Operation.get?_found id world) ?_
  rintro (failure | _ | old) middle ⟨rfl, found⟩
  · exact fun _ same => by cases same
  · exact fun _ same => by cases same
  · replace found := found _ rfl
    dsimp only
    by_cases again : old.isAutomated = true
    · simp only [again, Bool.not_true, Bool.false_eq_true, ↓reduceIte]
      rw [ends_bind, ends_clock]
      dsimp only
      rw [ends_bind, ends_pure?]
      cases opening : old.window.nextOpen zone middle.now with
      | error failure => exact fun _ same => by cases same
      | ok next =>
        refine (transition_required (fun _ => by rfl) "activate").mono
          fun result after hands campaign same => ?_
        obtain ⟨there, old', found', rfl⟩ := hands campaign same
        cases found.symm.trans found'
        exact ⟨there, old, next, List.mem_of_find?_eq_some found, again, opening, rfl⟩
    · rw [Bool.not_eq_true] at again
      simp only [again, Bool.not_false, ↓reduceIte]
      exact fun _ same => by cases same

/-- A campaign that repeats has been activated when it has been resumed. -/
theorem resume_hands (zone : Zone) (id : Int) (world : World σ α) :
    Ends (resume zone id) world fun result after => ∀ campaign, result = .ok campaign →
      after.store.campaign? id = some campaign ∧
        (campaign.isAutomated = true → Activated zone world campaign) := by
  rw [resume, ends_bind]
  refine Leads.mono (Operation.get?_found id world) ?_
  rintro (failure | found?) middle ⟨rfl, found⟩
  · exact fun _ same => by cases same
  · replace found := found _ rfl
    dsimp only
    split
    · exact (activate_hands zone id middle).mono fun result after activated campaign same =>
        (activated campaign same).imp_right fun row _ => row
    · rename_i once
      refine (transition_required (fun _ => by rfl) "resume").mono
        fun result after hands campaign same => ?_
      obtain ⟨there, old, found', rfl⟩ := hands campaign same
      refine ⟨there, fun again => absurd ?_ once⟩
      rw [← found, found']
      exact again

/-- The scheduler agrees about the next run of a campaign that has been activated. -/
theorem Activated.agrees {engine : Engine σ α} {campaign : Campaign α}
    (whole : ∀ campaign ∈ world.store.campaigns, campaign.window.IsWhole)
    (activated : Activated engine.settings.zone world campaign) :
    ∃ next, Scheduler.Agrees engine campaign world.now next := by
  obtain ⟨old, next, member, again, opening, rfl⟩ := activated
  exact ⟨next, Scheduler.agrees_of_opensFirst rfl again rfl
    (RunWindow.nextOpen_opensFirst (whole old member) opening)⟩

end Lifecycle

/-- The scheduler agrees about the next run of a campaign that its pass has left waiting. -/
theorem Pass.Rescheduled.agrees {engine : Engine σ α} {campaign : Campaign α} {ran next : Moment}
    (whole : campaign.window.IsWhole)
    (rescheduled : Pass.Rescheduled engine.settings campaign ran next campaign) :
    ∃ micros base, (campaign.interval engine.settings).micros .minutes = .ok micros ∧
      (base.micros : Int) = ran.micros + micros ∧ Scheduler.Agrees engine campaign base next := by
  obtain ⟨micros, base, lasts, behind, opening⟩ := Pass.nextRun_ok rescheduled.nextRun_eq
  exact ⟨micros, base, lasts, behind, Scheduler.agrees_of_opensFirst rescheduled.active
    rescheduled.repeats rescheduled.nextRunAt (RunWindow.nextOpen_opensFirst whole opening)⟩

variable [Amount α]

/-- A campaign that repeats waits for its next run when it has been activated or resumed, or when a
pass has ended, and the scheduler agrees about that run: its run window opens then for the first
time since it has been activated, or since the interval behind its pass has gone by, before that it
is not due, and then it is. -/
theorem next_run_agrees (engine : OperatedEngine σ α) (id : Int) (world : World σ α)
    (whole : ∀ campaign ∈ world.store.campaigns, campaign.window.IsWhole) :
    (Ends (Lifecycle.activate engine.settings.zone id) world fun result after =>
      ∀ campaign, result = .ok campaign → after.store.campaign? id = some campaign ∧
        ∃ next, Scheduler.Agrees engine.toEngine campaign world.now next) ∧
    (Ends (Lifecycle.resume engine.settings.zone id) world fun result after =>
      ∀ campaign, result = .ok campaign → after.store.campaign? id = some campaign ∧
        (campaign.isAutomated = true →
          ∃ next, Scheduler.Agrees engine.toEngine campaign world.now next)) ∧
    (world.store.created = true → Cell.fits id = true → Pass.refusal? world.store id = none →
      Ends (Pass.execute engine.toEngine id) world fun _ after => ∀ campaign,
        after.store.campaign? id = some campaign → campaign.status = .active →
          ∃ ran micros base next, campaign.lastRunAt = some ran ∧
            (campaign.interval engine.settings).micros .minutes = .ok micros ∧
            (base.micros : Int) = ran.micros + micros ∧
            Scheduler.Agrees engine.toEngine campaign base next) := by
  refine ⟨?_, ?_, fun created fits claims => ?_⟩
  · refine (Lifecycle.activate_hands _ id world).mono fun _ _ activated campaign same => ?_
    exact (activated campaign same).imp_right fun activated => activated.agrees whole
  · refine (Lifecycle.resume_hands _ id world).mono fun _ _ resumed campaign same => ?_
    exact (resumed campaign same).imp_right fun activated again => (activated again).agrees whole
  · have respects : engine.toEngine.Respects (Pass.During fun _ => True) :=
      engine.respects_plans.mono fun _ _ _ _ => trivial
    have departs := Pass.execute_departed engine respects created fits claims trivial
    have plans := (Pass.execute_moves engine.respects_plans id).leads world
    refine (departs.and plans).mono fun _ after ⟨departs, plans⟩ campaign found active => ?_
    obtain ⟨ran, next, -, rescheduled⟩ := departs campaign found (active ▸ rfl)
    obtain ⟨old, there, same⟩ := campaign?_of_plans plans found
    have window : campaign.window = old.window :=
      show campaign.plan.window = old.plan.window by rw [same]
    have whole := whole old (List.mem_of_find?_eq_some there)
    obtain ⟨micros, base, lasts, behind, agrees⟩ := rescheduled.agrees (window ▸ whole)
    exact ⟨ran, micros, base, next, rescheduled.lastRunAt, lasts, behind, agrees⟩

namespace Sample

/-- A winter's day at noon. -/
def noon : Moment := ⟨63903211200000000, by decide⟩

/-- An engine that goes by the clocks of Sofia. -/
def eastern : OperatedEngine Unit Binary64 :=
  { (engine : OperatedEngine Unit Binary64) with settings := { settings with zone := .sofia } }

/-- A campaign that repeats at night has been made. -/
def nocturnal : World Unit Binary64 :=
  (World.opened noon ()).after
    [.create "t" { recurring with window := ⟨some (.int 22), some (.int 6)⟩ }]

theorem nocturnal_whole : ∀ campaign ∈ nocturnal.store.campaigns, campaign.window.IsWhole := by
  have windows : nocturnal.store.campaigns.all (fun campaign =>
      campaign.window == ⟨some (.int 22), some (.int 6)⟩) = true := by decide +kernel
  intro campaign member
  rw [beq_iff_eq.mp (List.all_eq_true.mp windows campaign member)]
  exact ⟨fun _ same => ⟨22, (Option.some.inj same).symm⟩,
    fun _ same => ⟨6, (Option.some.inj same).symm⟩⟩

/-- The next time at which the campaign's window opens. -/
def evening : Moment := ⟨63903240000000000, by decide⟩

end Sample

/-- Whether it is activated or resumed at noon or runs then, a campaign that repeats at night runs
next in the evening, and the scheduler agrees. -/
theorem sample_next_run_agrees :
    ((∀ campaign ∈ Sample.nocturnal.store.campaigns, campaign.window.IsWhole) ∧
      Sample.nocturnal.store.created = true ∧ Cell.fits 1 = true ∧
      (Pass.refusal? Sample.nocturnal.store 1).isNone) ∧
    (Ends (Lifecycle.activate .sofia 1) Sample.nocturnal fun result _ => ∃ campaign,
      result = .ok campaign ∧
        Scheduler.Agrees Sample.eastern.toEngine campaign Sample.noon Sample.evening) ∧
    (Ends (Lifecycle.resume .sofia 1) Sample.nocturnal fun result _ => ∃ campaign,
      result = .ok campaign ∧
        Scheduler.Agrees Sample.eastern.toEngine campaign Sample.noon Sample.evening) ∧
    Ends (Pass.execute Sample.eastern.toEngine 1) Sample.nocturnal fun _ after => ∃ campaign base,
      after.store.campaign? 1 = some campaign ∧ campaign.lastRunAt = some Sample.noon ∧
        base.micros = Sample.noon.micros + 3600000000 ∧
        Scheduler.Agrees Sample.eastern.toEngine campaign base Sample.evening := by
  have whole := Sample.nocturnal_whole
  have created : Sample.nocturnal.store.created = true := by decide +kernel
  have claims : (Pass.refusal? Sample.nocturnal.store 1).isNone := by decide +kernel
  have start : Sample.nocturnal.now = Sample.noon := by decide +kernel
  have activates : Ends (Lifecycle.activate .sofia 1) Sample.nocturnal fun result _ =>
      result.toOption.any (·.nextRunAt == some Sample.evening) = true := by
    unfold Ends Leads
    decide +kernel
  have resumes : Ends (Lifecycle.resume .sofia 1) Sample.nocturnal fun result _ =>
      result.toOption.any (fun campaign =>
        campaign.isAutomated && campaign.nextRunAt == some Sample.evening) = true := by
    unfold Ends Leads
    decide +kernel
  have runs : Ends (Pass.execute Sample.eastern.toEngine 1) Sample.nocturnal fun _ after =>
      (after.store.campaign? 1).any (fun campaign => campaign.status == .active &&
        campaign.checkMinutes == none && campaign.lastRunAt == some Sample.noon &&
          campaign.nextRunAt == some Sample.evening) = true := by
    unfold Ends Leads
    decide +kernel
  have agrees := next_run_agrees Sample.eastern 1 Sample.nocturnal whole
  refine ⟨⟨whole, created, by decide, claims⟩, ?_, ?_, ?_⟩
  · refine (Leads.and activates agrees.1).mono ?_
    rintro result after ⟨tells, agrees⟩
    obtain ⟨campaign, same, next⟩ := (Option.any_eq_true _ _).mp tells
    obtain ⟨-, _, agrees⟩ := agrees campaign (ok_of_toOption same)
    cases (beq_iff_eq.mp next).symm.trans agrees.nextRunAt
    exact ⟨campaign, ok_of_toOption same, start ▸ agrees⟩
  · refine (Leads.and resumes agrees.2.1).mono ?_
    rintro result after ⟨tells, agrees⟩
    obtain ⟨campaign, same, tells⟩ := (Option.any_eq_true _ _).mp tells
    obtain ⟨again, next⟩ := Bool.and_eq_true_iff.mp tells
    obtain ⟨_, agrees⟩ := (agrees campaign (ok_of_toOption same)).2 again
    cases (beq_iff_eq.mp next).symm.trans agrees.nextRunAt
    exact ⟨campaign, ok_of_toOption same, start ▸ agrees⟩
  · have agrees := agrees.2.2 created (by decide) (Option.isNone_iff_eq_none.mp claims)
    refine (Leads.and runs agrees).mono ?_
    rintro result after ⟨tells, agrees⟩
    obtain ⟨campaign, found, tells⟩ := (Option.any_eq_true _ _).mp tells
    simp only [Bool.and_eq_true, beq_iff_eq] at tells
    obtain ⟨⟨⟨active, standard⟩, ran⟩, next⟩ := tells
    obtain ⟨_, micros, base, _, ran', lasts, behind, agrees⟩ := agrees campaign found active
    cases ran.symm.trans ran'
    cases next.symm.trans agrees.nextRunAt
    rw [Campaign.interval, standard] at lasts
    have lasts : micros = 3600000000 := (Except.ok.inj lasts).symm
    exact ⟨campaign, base, found, ran, by omega, agrees⟩

end Herald
