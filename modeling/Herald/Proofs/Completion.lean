import Herald.Proofs.Coverage
import Herald.Proofs.Exact

/-! # Campaigns that complete

A run in which a campaign is left to its passes, to credits and to being resumed moves it through
pauses until it completes or fails. By then everybody whom its first pass did not leave out has been
settled, event by event.
-/

namespace Herald

variable {σ α : Type} [Amount α]

/-- An event of a run in which a campaign is left to its passes, to credits and to being resumed. -/
inductive Event.IsCalm (id : Int) : Event σ α → Prop
  | execute (engine : OperatedEngine σ α) (calm : engine.IsCalm) (reads : engine.batchSize ≠ 0) :
      IsCalm id (.execute engine id)
  | credit (tenant : String) (amount : Decimal) : IsCalm id (.credit tenant amount)
  | resume (zone : Zone) : IsCalm id (.operate (.resume zone id))

/-- What has become of a target on a channel in a run: a message is logged, or it is the e-mail of a
target whose text message was the last one before a pause. -/
inductive Settled (start : World σ α) (run : List (Event σ α)) (id : Int) (target : TargetRecord) :
    Channel → Prop
  | logged {channel : Channel} {row : Message α} (member : row ∈ (start.after run).store.messages)
      (about : row.IsAbout id target channel) : Settled start run id target channel
  | cutOff {past rest : List (Event σ α)} {engine : OperatedEngine σ α}
      (split : run = past ++ .execute engine id :: rest)
      (interrupted : Interrupted id target (start.after past)
        (start.after (past ++ [.execute engine id]))) : Settled start run id target .email

omit [Amount α] in
/-- A resumed campaign that does not repeat is scheduled if it was paused, and as it was if not. -/
theorem Lifecycle.resume_found {zone : Zone} {id : Int} {world : World σ α} {old : Campaign α}
    (created : world.store.created = true) (found : world.store.campaign? id = some old)
    (once : old.isAutomated = false) :
    Ends (resume zone id) world fun _ after =>
      ∃ new, after.store.campaign? id = some new ∧ new.targetCount = old.targetCount ∧
        (new.status = old.status ∨ old.status = .paused ∧ new.status = .scheduled) := by
  rw [resume, ends_bind, Pass.get?_ends created]
  cases fits : Cell.fitted id with
  | error failure => exact ⟨old, found, rfl, .inl rfl⟩
  | ok fit =>
    cases fitted_eq fits
    simp only [Except.map, found, Option.any_some, once, Bool.false_eq_true, ↓reduceIte]
    rw [ends_bind]
    refine Leads.mono (transition_found id _ (fun _ => by rfl) found) ?_
    rintro (failure | changed) after wrote
    · cases wrote
      exact ⟨old, found, rfl, .inl rfl⟩
    · refine leads_of_still (require_moves id changed _) fun _ => ⟨_, wrote.2, ?_⟩
      split
      · rename_i holds
        simp only [Bool.and_eq_true, beq_iff_eq] at holds
        exact ⟨rfl, .inr ⟨holds.2, rfl⟩⟩
      · exact ⟨rfl, .inl rfl⟩

variable {start : World σ α} {id : Int} {first : Campaign α} {predicate : Predicate}
  {excluded : List Int}

namespace Event.IsCalm

variable {event : Event σ α} (calm : event.IsCalm id) {world : World σ α}

include calm

theorem frozen (world : World σ α) : Frozen world (event.after world) := by
  cases calm with
  | execute engine calm reads =>
    exact ⟨Pass.execute_moves calm.respects_now id world,
      Pass.execute_moves engine.respects_plans id world⟩
  | credit tenant amount =>
    exact ⟨BalanceLedger.credit_moves (R := Agree World.now) (fun _ _ => rfl) tenant amount world,
      BalanceLedger.credit_moves (R := Agree fun world => world.store.plans) (fun _ _ => rfl) tenant
        amount world⟩
  | resume zone =>
    exact ⟨OperatorAction.moves (R := Agree World.now) (fun _ _ _ _ _ => rfl) (.resume zone id) world,
      OperatorAction.moves plans_allows (.resume zone id) world⟩

/-- The log only grows. -/
theorem grows (orderly : Orderly world.store) :
    world.store.messages ⊆ (event.after world).store.messages := by
  suffices ∃ rows, (event.after world).store.messages = world.store.messages ++ rows by
    obtain ⟨rows, logged⟩ := this
    rw [logged]
    exact List.subset_append_left _ _
  cases calm with
  | execute engine calm reads =>
    obtain ⟨rows, logged, _⟩ := Pass.execute_logs engine id orderly
    exact ⟨rows, logged⟩
  | credit tenant amount =>
    have same := History.keepsRecords.credit tenant amount world
    exact ⟨[], (congrArg Prod.snd same).trans (List.append_nil _).symm⟩
  | resume zone =>
    have same := OperatorAction.moves (R := Agree fun world : World σ α => world.store.messages)
      (fun _ _ _ _ _ => rfl) (.resume zone id) world
    exact ⟨[], Eq.trans same (List.append_nil _).symm⟩

end Event.IsCalm

section Run

variable {all : List TargetRecord} {settled : TargetRecord → Channel → Prop} {run : List (Event σ α)}
  {event : Event σ α}

omit [Amount α] in
/-- An event that at most schedules a paused campaign settles nothing and unsettles nothing. -/
theorem Stands.still {world after : World σ α}
    (stands : Stands start id first all excluded settled world)
    (ledgers : (after.store.messages, after.store.cooldowns) =
      (world.store.messages, world.store.cooldowns))
    (life : ∀ old, world.store.campaign? id = some old → ∃ new,
      after.store.campaign? id = some new ∧ new.targetCount = old.targetCount ∧
        (new.status = old.status ∨ old.status = .paused ∧ new.status = .scheduled)) :
    Stands start id first all excluded settled after := by
  cases stands with
  | stuck found waits unfinished =>
    obtain ⟨new, found, _, status | ⟨paused, _⟩⟩ := life _ found
    · exact .stuck found (status ▸ waits) (status ▸ unfinished)
    · rw [paused] at waits
      exact absurd waits Bool.noConfusion
  | completed found status every =>
    obtain ⟨new, found, _, same | ⟨paused, _⟩⟩ := life _ found
    · exact .completed found (same.trans status) every
    · exact absurd (status.symm.trans paused) CampaignStatus.noConfusion
  | waiting found waits known cools reached =>
    obtain ⟨new, found, count, status⟩ := life _ found
    have waits : new.status.waits = true := by
      rcases status with same | ⟨_, scheduled⟩
      · exact same ▸ waits
      · rw [scheduled]
        rfl
    refine .waiting found waits (count ▸ known) (cools.of_ledgers ledgers) ?_
    have messages : after.store.messages = world.store.messages := congrArg Prod.fst ledgers
    simpa only [Lifecycle.messagedIn, messages] using reached

theorem Settled.snoc {target : TargetRecord} {channel : Channel}
    (orderly : Orderly (start.after run).store) (calm : event.IsCalm id)
    (settled : Settled start run id target channel) :
    Settled start (run ++ [event]) id target channel := by
  cases settled with
  | logged member about =>
    refine .logged ?_ about
    rw [World.after_append]
    exact calm.grows orderly member
  | cutOff split interrupted =>
    exact .cutOff (by rw [split, List.append_assoc, List.cons_append]) interrupted

/-- One event of a run. -/
theorem Event.IsCalm.stands (calm : event.IsCalm id)
    (outset : Outset start id first predicate excluded) (frozen : Frozen start (start.after run))
    (stands : Stands start id first ((first.audience predicate start).selected start.store) excluded
      (Settled start run id) (start.after run)) :
    Stands start id first ((first.audience predicate start).selected start.store) excluded
      (Settled start (run ++ [event]) id) (start.after (run ++ [event])) := by
  have orderly := outset.orderly.of_plans frozen.plans_eq
  have grown : ∀ target channel, Settled start run id target channel →
      Settled start (run ++ [event]) id target channel := fun _ _ => Settled.snoc orderly calm
  rw [World.after_append]
  cases calm with
  | execute engine calm reads =>
    have pass := execute_stands calm reads outset frozen stands
    refine Stands.mono pass ?_
    rintro target channel (old | ⟨row, member, about⟩ | ⟨rfl, interrupted⟩)
    · exact grown target channel old
    · exact .logged (by rw [World.after_append]; exact member) about
    · exact .cutOff rfl (by rw [World.after_append]; exact interrupted)
  | credit tenant amount =>
    have same := History.keepsRecords.credit tenant amount (start.after run)
    refine (stands.mono grown).still ?_ ?_
    · exact BalanceLedger.credit_moves
        (R := Agree fun world => (world.store.messages, world.store.cooldowns)) (fun _ _ => rfl)
        tenant amount (start.after run)
    · refine fun old found => ⟨old, ?_, rfl, .inl rfl⟩
      rw [← found, Store.campaign?, Store.campaign?]
      exact congrArg (List.find? _) (congrArg Prod.fst same)
  | resume zone =>
    refine (stands.mono grown).still ?_ ?_
    · exact OperatorAction.moves
        (R := Agree fun world => (world.store.messages, world.store.cooldowns))
        (fun _ _ _ _ _ => rfl) (.resume zone id) (start.after run)
    · intro old found
      have once := (isAutomated_of_plan (Pass.plan_eq outset frozen found)).trans outset.once
      exact Lifecycle.resume_found orderly.created found once

/-- A whole run. -/
theorem run_stands (outset : Outset start id first predicate excluded)
    (unfinished : first.status ≠ .completed) (run : List (Event σ α))
    (calm : ∀ event ∈ run, event.IsCalm id) :
    Frozen start (start.after run) ∧
      Stands start id first ((first.audience predicate start).selected start.store) excluded
        (Settled start run id) (start.after run) := by
  induction run using List.reverseRecOn with
  | nil =>
    refine ⟨⟨rfl, rfl⟩, ?_⟩
    cases waits : first.status.waits with
    | false => exact .stuck outset.found waits unfinished
    | true =>
      refine .waiting outset.found waits (.inl outset.fresh) (fun _ _ active => .inl active) ?_
      -- Nobody is reached who is not left out.
      intro target member admits there
      obtain ⟨cooled, _, left⟩ := ok_of_bind outset.excluded_eq
      simp only [outset.once, Bool.false_eq_true, ↓reduceIte, campaign?_id outset.found, pure,
        Except.pure, Except.ok.injEq] at left
      have excludes : excluded.contains target.id = true :=
        List.contains_iff_mem.mpr (left ▸ List.mem_append_right _ there)
      rw [admits] at excludes
      exact absurd excludes Bool.false_ne_true
  | append_singleton run event ih =>
    obtain ⟨frozen, stands⟩ := ih fun other member => calm other (List.mem_append_left _ member)
    have calm := calm event (List.mem_append_right _ (List.mem_singleton_self event))
    have next := calm.frozen (start.after run)
    refine ⟨⟨?_, ?_⟩, calm.stands outset frozen stands⟩
    · rw [World.after_append]
      exact next.now_eq.trans frozen.now_eq
    · rw [World.after_append]
      exact next.plans_eq.trans frozen.plans_eq

end Run

/-- A run in which a campaign that runs once, and has no pass behind it, is left to its passes, to
credits and to being resumed, and completes. -/
structure Completes (start : World σ α) (run : List (Event σ α)) (id : Int) (first : Campaign α)
    (predicate : Predicate) (excluded : List Int) : Prop where
  found : start.store.campaign? id = some first
  runsOnce : first.isOneTime = true
  fresh : first.targetCount = .int 0
  unfinished : first.status ≠ .completed
  compiled : Pass.compileIn start.store first = .ok predicate
  excluded_eq : Pass.excludedIn start.now start.store first = .ok excluded
  calm : ∀ event ∈ run, event.IsCalm id
  completed : ((start.after run).store.campaign? id).map Campaign.status = some .completed

/-- When a campaign that runs once completes in a run that nobody disturbs, every matching target
that its first pass did not leave out has a message on each of its channels, but for the e-mail of a
target between whose two messages the money has run out. -/
theorem completed_settled (now : Moment) (outside : σ) (past run : List (Event σ α)) (id : Int)
    (first : Campaign α) (predicate : Predicate) (excluded : List Int)
    (completes : Completes ((World.opened now outside).after past) run id first predicate excluded) :
    let start := (World.opened now outside).after past
    ∀ target ∈ (first.audience predicate start).selected start.store,
      excluded.contains target.id = false →
        ∀ channel ∈ channelsFor first.reach target, Settled start run id target channel := by
  intro start
  have outset : Outset start id first predicate excluded :=
    ⟨orderly_after now outside past, completes.found,
      Campaign.isAutomated_of_isOneTime completes.runsOnce, completes.fresh, completes.compiled,
      completes.excluded_eq⟩
  obtain ⟨_, stands⟩ := run_stands outset completes.unfinished run completes.calm
  have completed := completes.completed
  cases stands with
  | completed found status every => exact every
  | stuck found waits unfinished =>
    rw [found, Option.map_some, Option.some.injEq] at completed
    exact absurd completed unfinished
  | waiting found waits =>
    rw [found, Option.map_some, Option.some.injEq] at completed
    rw [completed] at waits
    exact absurd waits Bool.noConfusion

/-! ## The small history -/

namespace Sample

omit [Amount α] in
theorem engine_calm : (engine : OperatedEngine Unit α).IsCalm where
  exchange request := by cases request <;> exact fun _ => rfl
  beforeFinish _ := rfl

/-- The run from the first pass of the campaign to its last one. -/
def run : List (Event Unit α) := resumed ++ [.execute engine 1]

/-- The campaign completes, and its customer was to get an e-mail. -/
theorem run_completes :
    let start : World Unit Exact := world prepared
    ∃ first predicate excluded, Completes start run 1 first predicate excluded ∧
      ∃ target ∈ (first.audience predicate start).selected start.store,
        excluded.contains target.id = false ∧ .email ∈ channelsFor first.reach target := by
  intro start
  have facts : (start.store.campaign? 1).any (fun first =>
      (Pass.compileIn start.store first).toOption.any fun predicate =>
        (Pass.excludedIn start.now start.store first).toOption.any fun excluded =>
          first.isOneTime && first.targetCount == .int 0 && first.status == .draft &&
            ((first.audience predicate start).selected start.store).any fun target =>
              !excluded.contains target.id &&
                (channelsFor first.reach target).contains .email) = true := by decide +kernel
  obtain ⟨first, found, facts⟩ := (Option.any_eq_true _ _).mp facts
  obtain ⟨predicate, compiled, facts⟩ := (Option.any_eq_true _ _).mp facts
  obtain ⟨excluded, left, facts⟩ := (Option.any_eq_true _ _).mp facts
  simp only [Bool.and_eq_true, beq_iff_eq, List.any_eq_true, Bool.not_eq_true',
    List.contains_iff_mem] at facts
  obtain ⟨⟨⟨runsOnce, fresh⟩, status⟩, target, member, admits, email⟩ := facts
  refine ⟨first, predicate, excluded, ⟨found, runsOnce, fresh, ?_, ok_of_toOption compiled,
    ok_of_toOption left, ?_, ?_⟩, target, member, admits, email⟩
  · rw [status]
    exact CampaignStatus.noConfusion
  · simp only [run, resumed, List.cons_append, List.nil_append, List.forall_mem_cons]
    exact ⟨.credit _ _, .execute _ engine_calm (by decide), .credit _ _, .resume _,
      .execute _ engine_calm (by decide), List.forall_mem_nil _⟩
  · decide +kernel

/-- An engine that reads no targets at a time. -/
def blindEngine : OperatedEngine Unit α := { engine with batchSize := 0 }

end Sample

/-- The run of the small history completes, and its customer is settled on both channels. -/
theorem sample_completed_settled :
    let start : World Unit Exact := Sample.world Sample.prepared
    ∃ first predicate excluded, Completes start Sample.run 1 first predicate excluded ∧
      ∀ target ∈ (first.audience predicate start).selected start.store,
        excluded.contains target.id = false →
          ∀ channel ∈ channelsFor first.reach target, Settled start Sample.run 1 target channel := by
  intro start
  obtain ⟨first, predicate, excluded, completes, _⟩ := Sample.run_completes
  exact ⟨first, predicate, excluded, completes, completed_settled ⟨0, by decide⟩ () Sample.prepared
    Sample.run 1 first predicate excluded completes⟩

/-- The e-mail is lost: not every target of a campaign that has completed has a message on each of
its channels. And nobody has one from an engine that reads no targets. -/
theorem sample_email_lost :
    (¬ ∀ (now : Moment) (past run : List (Event Unit Exact)) id first predicate excluded,
      Completes ((World.opened now ()).after past) run id first predicate excluded →
        let start := (World.opened now ()).after past
        ∀ target ∈ (first.audience predicate start).selected start.store,
          excluded.contains target.id = false → ∀ channel ∈ channelsFor first.reach target,
            ∃ row ∈ (start.after run).store.messages, row.IsAbout id target channel) ∧
      let blind : World Unit Exact := Sample.world (Sample.prepared ++
        [.credit "t" (Settings.cents 5), .execute Sample.blindEngine 1])
      (blind.store.campaign? 1).map Campaign.status = some .completed ∧
        blind.store.messages.length = 0 := by
  refine ⟨fun all => ?_, by decide +kernel⟩
  obtain ⟨first, predicate, excluded, completes, target, member, admits, email⟩ :=
    Sample.run_completes
  obtain ⟨row, member, about⟩ := all ⟨0, by decide⟩ Sample.prepared Sample.run 1 first predicate
    excluded completes target member admits .email email
  have texts : ((Sample.world (Sample.prepared ++ Sample.run)).store.messages.all
      fun row : Message Exact => row.channel == .sms) = true := by decide +kernel
  rw [Sample.world, World.after_append] at texts
  have text := beq_iff_eq.mp (List.all_eq_true.mp texts row member)
  exact absurd (text.symm.trans about.2.2.2) Channel.noConfusion

end Herald
