import Herald.Proofs.Encounters
import Herald.Proofs.Exact
import Herald.Proofs.Frame
import Herald.Proofs.Visits

/-! # One-time campaigns

A campaign that does not repeat reaches a target at most once on each channel. Within a pass this
is the order of the table: no target is visited twice. From pass to pass it is the log: whoever has
a message that went out is left out of every later pass, on all channels and whatever the cooldowns
say. The log alone carries the invariant, `Reaching`.
-/

namespace Herald

variable {σ α : Type}

/-- The row of a campaign's message that went out. -/
def Message.reaches (id : Int) (row : Message α) : Bool :=
  row.campaign == id && row.status.isSuccess

/-- The target and channel of a message. -/
def Message.goal (row : Message α) : String × Int × Channel :=
  (row.target, row.targetId, row.channel)

/-- No message of a campaign goes out twice to one target on one channel. -/
def ReachesOnce (id : Int) (messages : List (Message α)) : Prop :=
  ((messages.filter (Message.reaches id)).map Message.goal).Nodup

variable [Amount α]

namespace Pass

/-! ## The rows of one pass -/

/-- The rows that a pass leaves: they are about targets of its audience that are not left out, and
no two of them about one target on one channel. -/
structure Listed (setting : Setting α) (rows : List (Message α)) : Prop where
  about : ∀ row ∈ rows, row.campaign = setting.campaign.id ∧
    row.target = setting.audience.kind.name ∧ setting.excluded.contains row.targetId = false
  once : (rows.map fun row => (row.targetId, row.channel)).Nodup

/-- What holds with some of its records still before a walk: the rows of the pass are about none of
these, which are all different. -/
structure Ahead (setting : Setting α) (before : List (Message α)) (rest : List TargetRecord)
    (world : World σ α) : Prop where
  kinds : ∀ target ∈ rest, target.kind = setting.audience.kind
  ids : (rest.map TargetRecord.id).Nodup
  logged : ∃ rows, world.store.messages = before ++ rows ∧ Listed setting rows ∧
    ∀ row ∈ rows, row.targetId ∉ rest.map TargetRecord.id

omit [Amount α] in
theorem Ahead.skip {setting : Setting α} {before : List (Message α)} {target : TargetRecord}
    {rest : List TargetRecord} {world : World σ α}
    (ahead : Ahead setting before (target :: rest) world) : Ahead setting before rest world where
  kinds other member := ahead.kinds other (List.mem_cons_of_mem _ member)
  ids := (List.nodup_cons.mp ahead.ids).2
  logged := by
    obtain ⟨rows, logged, listed, others⟩ := ahead.logged
    exact ⟨rows, logged, listed, fun row member here =>
      others row member (List.mem_cons_of_mem _ here)⟩

theorem Ahead.visit {setting : Setting α} {before : List (Message α)} {target : TargetRecord}
    {rest : List TargetRecord} {world after : World σ α}
    (ahead : Ahead setting before (target :: rest) world) {progress : Progress}
    {added : List (Message α)} {delivered : Bool} {visit : Visit Progress}
    (visits : Visits setting.campaign setting.excluded target progress added delivered visit)
    (logs : after.store.messages = world.store.messages ++ added) :
    Ahead setting before rest after where
  kinds := ahead.skip.kinds
  ids := ahead.skip.ids
  logged := by
    obtain ⟨rows, logged, listed, others⟩ := ahead.logged
    obtain ⟨channels, about⟩ := visits.rows_about
    refine ⟨rows ++ added, by rw [logs, logged, List.append_assoc], ⟨?_, ?_⟩, ?_⟩
    · intro row member
      rcases List.mem_append.mp member with old | new
      · exact listed.about row old
      · obtain ⟨campaign, kind, id, admits⟩ := about row new
        exact ⟨campaign, kind.trans (by rw [ahead.kinds target (List.mem_cons_self ..)]),
          id ▸ admits⟩
    · rw [List.map_append, List.nodup_append]
      refine ⟨listed.once, List.Nodup.of_map Prod.snd ?_, ?_⟩
      · simpa only [List.map_map, Function.comp_def] using channels
      · intro pair old other new same
        subst same
        obtain ⟨row, member, rfl⟩ := List.mem_map.mp old
        obtain ⟨row', member', same⟩ := List.mem_map.mp new
        have here : row.targetId = target.id :=
          (congrArg Prod.fst same).symm.trans (about row' member').2.2.1
        exact others row member (here ▸ List.mem_cons_self ..)
    · intro row member here
      rcases List.mem_append.mp member with old | new
      · exact others row old (List.mem_cons_of_mem _ here)
      · rw [(about row new).2.2.1] at here
        exact (List.nodup_cons.mp ahead.ids).1 here

section Passes

variable (engine : OperatedEngine σ α) {id : Int} {world : World σ α}

omit [Amount α] in
theorem keepsLog : KeepsLog engine.toEngine := engine.exchange_moves fun _ => rfl

omit [Amount α] in
theorem keepsLedgers : KeepsLedgers engine.toEngine where
  log := keepsLog engine
  cooldowns := engine.exchange_moves fun _ => rfl

theorem visit_table (campaign : Campaign α) (isTest : Bool) (excluded : List Int)
    (kind : TargetKind) (progress : Progress) (target : TargetRecord) :
    Moves (Agree (World.table kind))
      (visit engine.toEngine campaign isTest excluded progress target) :=
  visit_moves (engine.respects_plans.mono fun _ _ same =>
    Prod.ext (congrArg Store.created same :) (Store.targets_of_plans same kind)).toReaches
    campaign isTest excluded progress target

/-- What follows a walk leaves the log alone. -/
theorem settles_log : engine.toEngine.Settles
    (Agree fun world : World σ α => world.store.messages) where
  life _ _ _ _ _ := rfl
  tally _ _ _ := Lifecycle.apply_moves fun _ _ _ => rfl
  beforeFinish world := view_of_standing (fun _ => rfl) (engine.beforeFinish_operated world).standing
  journal _ _ := rfl

theorem walk_logs (setting : Setting α) (orderly : Orderly world.store) :
    Leads (setting.walk engine.toEngine) world fun _ after => ∃ rows,
      after.store.messages = world.store.messages ++ rows ∧ Listed setting rows := by
  have begun : Ahead setting world.store.messages (setting.audience.records 0 world.store) world :=
    ⟨Audience.records_kind, Audience.records_nodup (orderly.targets _), [],
      (List.append_nil _).symm, ⟨by simp, List.nodup_nil⟩, by simp⟩
  refine (Audience.walk_leads_each (I := fun rest (_ : Progress) after =>
      Ahead setting world.store.messages rest after)
    (visit_table engine _ _ _ _) orderly.created (orderly.targets _)
    (fun _ _ _ _ ahead => ahead.skip) ?_ begun).mono ?_
  · intro progress target rest middle _ ahead
    refine (visit_leads (keepsLedgers engine) setting.campaign setting.isTest setting.excluded
      progress target middle).mono ?_
    rintro visit after ⟨added, delivered, visits, logs, _⟩
    exact ahead.visit visits logs
  · rintro walked after ⟨rest, ahead⟩
    obtain ⟨rows, logged, listed, _⟩ := ahead.logged
    exact ⟨rows, logged, listed⟩

/-- What a pass adds to the log. -/
def Adds (engine : Engine σ α) (id : Int) (world : World σ α) (rows : List (Message α)) : Prop :=
  rows = [] ∨ ∃ setting middle, Walks engine id world setting middle ∧ Listed setting rows

/-- A pass only adds rows to the log, which are listed by its walk. -/
theorem execute_logs (id : Int) (orderly : Orderly world.store) :
    Ends (execute engine.toEngine id) world fun _ after => ∃ rows,
      after.store.messages = world.store.messages ++ rows ∧ Adds engine.toEngine id world rows := by
  refine execute_ends ?_ ?_ ?_
  · exact fun _ => ⟨[], (List.append_nil _).symm, .inl rfl⟩
  · intro old campaign isTest count failure middle claims
    refine ((close_moves (settles_log engine) campaign isTest _ _).leads middle).mono ?_
    intro result after same
    exact ⟨[], (same.trans claims.messages_eq).trans (List.append_nil _).symm, .inl rfl⟩
  · intro setting middle walks
    obtain ⟨old, claims, _⟩ := walks.claims
    refine (walk_logs engine setting (orderly.of_plans claims.plans_eq)).mono ?_
    rintro walked later ⟨rows, logged, listed⟩
    refine ((conclude_moves (settles_log engine) setting walked).leads later).mono ?_
    intro result after same
    rw [claims.messages_eq] at logged
    exact ⟨rows, same.trans logged, .inr ⟨setting, middle, walks, listed⟩⟩

omit [Amount α] in
/-- Whoever has got a message of a campaign that does not repeat is left out of its passes. -/
theorem Walks.excludes {setting : Setting α} {middle : World σ α} [Amount α]
    (walks : Walks engine.toEngine id world setting middle)
    (repeats : setting.campaign.isAutomated = false) {row : Message α}
    (member : row ∈ world.store.messages) (reaches : row.reaches id = true)
    (kind : row.target = setting.audience.kind.name) :
    setting.excluded.contains row.targetId = true := by
  obtain ⟨old, claims, -⟩ := walks.claims
  obtain ⟨cooled, _, excluded⟩ := ok_of_bind walks.excluded_eq
  simp only [repeats, Bool.false_eq_true, ↓reduceIte, pure, Except.pure, Except.ok.injEq] at excluded
  rw [← excluded, List.contains_iff_mem, List.mem_append]
  refine .inr (List.mem_map_of_mem (List.mem_filter.mpr ⟨?_, ?_⟩))
  · rw [claims.messages_eq]
    exact member
  · rw [Message.reaches, Bool.and_eq_true] at reaches
    simp only [claims.id_eq, reaches.1, reaches.2, walks.target_eq, kind, BEq.rfl, Bool.and_self]

end Passes

end Pass

/-! ## From pass to pass -/

/-- The log of a store: every message is one of a campaign, and a campaign that does not repeat has
reached nobody twice. -/
structure Reaching (store : Store α) : Prop where
  orderly : Orderly store
  known : ∀ row ∈ store.messages, (store.campaign? row.campaign).isSome
  once : ∀ id campaign, store.campaign? id = some campaign → campaign.isAutomated = false →
    ReachesOnce id store.messages

theorem campaign?_of_plans {before after : Store α} (same : after.plans = before.plans) {id : Int}
    {campaign : Campaign α} (found : after.campaign? id = some campaign) :
    ∃ old, before.campaign? id = some old ∧ campaign.plan = old.plan := by
  have plans := Store.campaign?_plans same id
  rw [found] at plans
  obtain ⟨old, there, plan⟩ := Option.map_eq_some_iff.mp plans.symm
  exact ⟨old, there, plan.symm⟩

theorem campaign?_isSome_of_plans {before after : Store α} (same : after.plans = before.plans)
    (id : Int) : (after.campaign? id).isSome = (before.campaign? id).isSome := by
  have plans := congrArg Option.isSome (Store.campaign?_plans same id)
  simpa only [Option.isSome_map] using plans

omit [Amount α] in
theorem Campaign.isAutomated_of_isOneTime {campaign : Campaign α}
    (runsOnce : campaign.isOneTime = true) : campaign.isAutomated = false := by
  rw [isOneTime, beq_iff_eq] at runsOnce
  rw [isAutomated, runsOnce]
  rfl

theorem isAutomated_of_plan {before after : Campaign α} (same : after.plan = before.plan) :
    after.isAutomated = before.isAutomated :=
  show after.plan.isAutomated = before.plan.isAutomated by rw [same]

omit [Amount α] in
theorem ReachesOnce.append {id : Int} {messages rows : List (Message α)}
    (once : ReachesOnce id messages)
    (goals : (rows.map fun row => (row.targetId, row.channel)).Nodup)
    (apart : ∀ old ∈ messages, old.reaches id = true → ∀ row ∈ rows, old.goal ≠ row.goal) :
    ReachesOnce id (messages ++ rows) := by
  rw [ReachesOnce, List.filter_append, List.map_append, List.nodup_append]
  refine ⟨once, ?_, ?_⟩
  · refine List.Nodup.sublist (List.filter_sublist.map _) ?_
    refine List.Nodup.of_map Prod.snd ?_
    simpa only [List.map_map, Function.comp_def, Message.goal] using goals
  · intro goal old other new
    obtain ⟨first, member, rfl⟩ := List.mem_map.mp old
    obtain ⟨second, member', rfl⟩ := List.mem_map.mp new
    obtain ⟨there, reaches⟩ := List.mem_filter.mp member
    exact apart first there reaches second (List.mem_filter.mp member').1

omit [Amount α] in
theorem ReachesOnce.append_other {id : Int} {messages rows : List (Message α)}
    (once : ReachesOnce id messages) (others : ∀ row ∈ rows, row.reaches id = false) :
    ReachesOnce id (messages ++ rows) := by
  have none : rows.filter (Message.reaches id) = [] :=
    List.filter_eq_nil_iff.mpr fun row member => Bool.eq_false_iff.mp (others row member)
  rwa [ReachesOnce, List.filter_append, none, List.append_nil]

namespace Reaching

theorem of_plans {before after : Store α} (reaching : Reaching before)
    (same : after.plans = before.plans) (messages : after.messages = before.messages) :
    Reaching after where
  orderly := reaching.orderly.of_plans same
  known row member := by
    rw [campaign?_isSome_of_plans same]
    exact reaching.known row (messages ▸ member)
  once id campaign found once := by
    obtain ⟨old, there, plan⟩ := campaign?_of_plans same found
    exact messages ▸ reaching.once id old there ((isAutomated_of_plan plan).symm.trans once)

/-- A pass keeps the log in order. -/
theorem pass {engine : OperatedEngine σ α} {id : Int} {world : World σ α} {after : Store α}
    (reaching : Reaching world.store) (plans : after.plans = world.store.plans)
    {rows : List (Message α)} (logged : after.messages = world.store.messages ++ rows)
    (adds : Pass.Adds engine.toEngine id world rows) : Reaching after := by
  rcases adds with rfl | ⟨setting, middle, walks, listed⟩
  · exact reaching.of_plans plans (logged.trans (List.append_nil _))
  obtain ⟨old, claims, _⟩ := walks.claims
  refine ⟨reaching.orderly.of_plans plans, ?_, ?_⟩
  · intro row member
    rw [campaign?_isSome_of_plans plans]
    rcases List.mem_append.mp (logged ▸ member) with before | added
    · exact reaching.known row before
    · rw [(listed.about row added).1, claims.id_eq, claims.found]
      rfl
  · intro other campaign found once
    obtain ⟨first, there, plan⟩ := campaign?_of_plans plans found
    have once : first.isAutomated = false := (isAutomated_of_plan plan).symm.trans once
    rw [logged]
    by_cases same : other = id
    · subst same
      refine (reaching.once other first there once).append listed.once ?_
      intro row member reaches added there' goal
      have repeats : setting.campaign.isAutomated = false := by
        rw [claims.found] at there
        cases there
        rw [claims.campaign_eq]
        exact once
      have about := listed.about added there'
      have kind : row.target = setting.audience.kind.name :=
        (congrArg Prod.fst goal).trans about.2.1
      have excludes := walks.excludes engine repeats member reaches kind
      have target : row.targetId = added.targetId := congrArg (fun goal => goal.2.1) goal
      rw [target, about.2.2] at excludes
      exact Bool.false_ne_true excludes
    · refine (reaching.once other first there once).append_other fun row member => ?_
      rw [Message.reaches, (listed.about row member).1, claims.id_eq,
        beq_eq_false_iff_ne.mpr (Ne.symm same), Bool.false_and]

omit [Amount α] in
theorem of_records {before after : Store α} (reaching : Reaching before) (orderly : Orderly after)
    (same : after.records = before.records) : Reaching after := by
  have campaigns : after.campaigns = before.campaigns := congrArg Prod.fst same
  have messages : after.messages = before.messages := congrArg Prod.snd same
  refine ⟨orderly, ?_, ?_⟩
  · rw [messages]
    simpa only [Store.campaign?, campaigns] using reaching.known
  · rw [messages]
    simpa only [Store.campaign?, campaigns] using reaching.once

/-- A new campaign has sent nothing, as every message in the log is one of the campaigns before. -/
theorem create {store : Store α} (reaching : Reaching store) (tenant : String) (now : Moment)
    (draft : Draft) :
    Reaching { store with campaigns := store.campaigns ++
      [Campaign.ofDraft (nextId (store.campaigns.map Campaign.id)) tenant now draft] } where
  orderly := reaching.orderly.create tenant now draft
  known row member := by
    simp only [Store.campaign?, List.find?_append, Option.isSome_or, Bool.or_eq_true]
    exact .inl (reaching.known row member)
  once id campaign found once := by
    cases old : store.campaign? id with
    | some before =>
      have same : some before = some campaign := by
        rw [← found, Store.campaign?, List.find?_append, ← Store.campaign?, old, Option.some_or]
      cases same
      exact reaching.once id _ old once
    | none =>
      have none : store.messages.filter (Message.reaches id) = [] := by
        refine List.filter_eq_nil_iff.mpr fun row member reaches => ?_
        rw [Message.reaches, Bool.and_eq_true, beq_iff_eq] at reaches
        have known := reaching.known row member
        rw [reaches.1, old] at known
        exact Bool.false_ne_true known
      rw [ReachesOnce, none]
      exact List.nodup_nil

end Reaching

theorem History.respects_reaching :
    History.Respects (Keeps Reaching : World σ α → World σ α → Prop) where
  pass engine id world reaching := by
    have plans : Agree _ _ _ := Pass.execute_moves engine.respects_plans id world
    obtain ⟨rows, logged, adds⟩ := Pass.execute_logs engine id reaching.orderly
    exact reaching.pass plans logged adds
  life world id condition change keeps reaching :=
    reaching.of_plans (plans_allows world id condition change keeps) rfl
  create tenant draft := Lifecycle.create_moves fun _ now _ reaching =>
    reaching.create tenant now draft
  define tenant target spec world reaching := reaching.of_records
    (respects_orderly.define tenant target spec world reaching.orderly)
    (keepsRecords.define tenant target spec world)
  upsert schema data externalId fields world reaching := reaching.of_records
    (respects_orderly.upsert schema data externalId fields world reaching.orderly)
    (keepsRecords.upsert schema data externalId fields world)
  cleanup days world reaching := reaching.of_records
    (respects_orderly.cleanup days world reaching.orderly) (keepsRecords.cleanup days world)
  elapse _ _ _ := id

/-- The log of a store is in order after any history. -/
theorem reaching_after (now : Moment) (outside : σ) (events : List (Event σ α)) :
    Reaching ((World.opened now outside : World σ α).after events).store := by
  refine History.respects_reaching.history ?_ events _ ?_
  · intro tenant amount world reaching
    exact reaching.of_records (credit_orderly tenant amount world reaching.orderly)
      (History.keepsRecords.credit tenant amount world)
  · exact ⟨orderly_empty, List.forall_mem_nil _, fun _ _ _ _ => List.nodup_nil⟩

/-- After any history, a campaign that runs once has at most one message out to a target on a
channel, and every further pass of it passes over the targets that it has reached on any channel.
The passes of a tick are among these, because a tick is a history of passes. -/
theorem target_reached_once (now : Moment) (outside : σ) (events : List (Event σ α)) (id : Int)
    (runsOnce : (((World.opened now outside : World σ α).after events).store.campaign? id).any
      Campaign.isOneTime = true) :
    let world := (World.opened now outside : World σ α).after events
    (∀ target targetId channel, (world.store.messages.filter fun row =>
        row.reaches id && row.goal == (target, targetId, channel)).length ≤ 1) ∧
      ∀ engine : OperatedEngine σ α, ∀ encounter ∈ Pass.encounters engine.toEngine id world,
        (∃ row ∈ world.store.messages, row.reaches id = true ∧
          row.target = encounter.target.kind.name ∧ row.targetId = encounter.target.id) →
            encounter.PassesOver := by
  intro world
  have reaching : Reaching world.store := reaching_after now outside events
  obtain ⟨campaign, found, runsOnce⟩ := (Option.any_eq_true _ _).mp runsOnce
  have runsOnce : campaign.isAutomated = false := Campaign.isAutomated_of_isOneTime runsOnce
  constructor
  · intro target targetId channel
    have once := List.nodup_iff_count_le_one.mp (reaching.once id campaign found runsOnce)
      (target, targetId, channel)
    rw [← List.countP_eq_length_filter]
    simpa only [List.count, List.countP_map, List.countP_filter, Function.comp_apply,
      Bool.and_comm] using once
  · rintro engine
    refine Pass.encounters_all fun setting middle walks progress target before kind => ?_
    by_cases excludes : setting.excluded.contains target.id = true
    · exact (Pass.visit_excluded excludes).mono fun visited after passes _ => passes
    · refine (leads_true _ _).mono fun visited after _ reached => absurd ?_ excludes
      obtain ⟨row, member, reaches, rightKind, rightId⟩ := reached
      obtain ⟨old, claims, _⟩ := walks.claims
      have same : some old = some campaign := claims.found.symm.trans found
      have repeats : setting.campaign.isAutomated = false := by
        cases same
        rw [claims.campaign_eq]
        exact runsOnce
      exact rightId ▸ walks.excludes engine repeats member reaches (kind ▸ rightKind)

/-- A campaign that has been interrupted between its two messages to a target. -/
theorem sample_reached_once :
    let world : World Unit Exact := Sample.world (Sample.prepared ++ Sample.resumed)
    (∀ target targetId channel, (world.store.messages.filter fun row =>
        row.reaches 1 && row.goal == (target, targetId, channel)).length ≤ 1) ∧
      ∀ engine : OperatedEngine Unit Exact, ∀ encounter ∈ Pass.encounters engine.toEngine 1 world,
        (∃ row ∈ world.store.messages, row.reaches 1 = true ∧
          row.target = encounter.target.kind.name ∧ row.targetId = encounter.target.id) →
            encounter.PassesOver :=
  target_reached_once _ _ _ 1 (by decide +kernel)

end Herald
