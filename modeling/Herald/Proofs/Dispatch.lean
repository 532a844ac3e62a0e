import Herald.Proofs.Guard
import Herald.Proofs.Meeting
import Herald.Proofs.Once
import Herald.Proofs.Totals

/-! # What a pass that nothing stops has sent

Behind a walk that has met its targets without being stopped, the log carries exactly the messages
that were `due`: one on each channel of every target that is not left out, in their order and as
they have been composed. The tally and the number of targets left out go with them, and a pass tells
both when it returns without having been paused or cancelled.
-/

namespace Herald

variable {σ α : Type}

/-- How many messages have been counted on a channel, whatever became of them. -/
def Tally.tried (tally : Tally) (channel : Channel) : Nat :=
  (tally.channel channel).sent + (tally.channel channel).failed

theorem Tally.tried_withChannel (tally : Tally) (channel other : Channel) {counts : ChannelTally}
    (more : counts.sent + counts.failed = tally.tried channel + 1) :
    (tally.withChannel channel counts).tried other = tally.tried other + [channel].count other := by
  rw [tried, channel_withChannel, List.count_singleton]
  by_cases same : other = channel
  · subst same
    simp [more]
  · simp [same, Ne.symm same, tried]

/-- A message is counted on its channel. -/
theorem Tally.tried_record {tally counted : Tally} {channel : Channel} {sent : Sent}
    (counts : tally.record channel sent = .ok counted) (other : Channel) :
    counted.tried other = tally.tried other + [channel].count other := by
  have success : ∀ cost delivered, tally.success channel cost delivered = .ok counted →
      counted.tried other = tally.tried other + [channel].count other := by
    intro cost delivered counts
    rw [Tally.success, ChannelTally.success] at counts
    split at counts
    · cases counts
      refine tried_withChannel tally channel other ?_
      simp only [tried]
      omega
    · cases counts
  cases sent with
  | charged cost => exact success _ _ counts
  | simulated => exact success _ _ counts
  | rejected =>
    cases counts
    exact tried_withChannel tally channel other (by simp only [tried, ChannelTally.failure]; omega)

/-- The messages that are due to some targets: one on each channel of every target that is not left
out. -/
def due (excluded : List Int) (reach : Reach) (targets : List TargetRecord) :
    List (TargetRecord × Channel) :=
  (targets.filter fun target => !excluded.contains target.id).flatMap fun target =>
    (channelsFor reach target).map fun channel => (target, channel)

theorem due_append (excluded : List Int) (reach : Reach) (first rest : List TargetRecord) :
    due excluded reach (first ++ rest) = due excluded reach first ++ due excluded reach rest := by
  rw [due, List.filter_append, List.flatMap_append, due, due]

theorem due_of_excluded {excluded : List Int} {target : TargetRecord}
    (excludes : excluded.contains target.id = true) (reach : Reach) :
    due excluded reach [target] = [] := by
  simp [due, List.contains_iff_mem.mp excludes]

theorem due_of_admitted {excluded : List Int} {target : TargetRecord}
    (admits : excluded.contains target.id = false) (reach : Reach) :
    due excluded reach [target] =
      (channelsFor reach target).map fun channel => (target, channel) := by
  rw [due, List.filter_cons_of_pos (by rw [admits]; rfl), List.filter_nil, List.flatMap_singleton]

/-- Nothing but rows of a kind has been added to the log. -/
def LogsOnly (kind : Message α → Prop) (before after : World σ α) : Prop :=
  ∃ rows, after.store.messages = before.store.messages ++ rows ∧ ∀ row ∈ rows, kind row

namespace LogsOnly

variable {kind : Message α → Prop}

theorem of_eq {before after : World σ α} (same : after.store.messages = before.store.messages) :
    LogsOnly kind before after :=
  ⟨[], same.trans (List.append_nil _).symm, List.forall_mem_nil _⟩

instance : IsPreorder (World σ α) (LogsOnly kind) where
  refl _ := .of_eq rfl
  trans first second third := by
    rintro ⟨rows, logged, are⟩ ⟨more, logged', are'⟩
    refine ⟨rows ++ more, by rw [logged', logged, List.append_assoc], fun row member => ?_⟩
    exact (List.mem_append.mp member).elim (are row) (are' row)

end LogsOnly

variable [Amount α]

/-- What a pass tells about its audience and what it has done. -/
structure PassResult.Tells (told : PassResult) (count : Cell) (progress : Progress) : Prop where
  targetCount_eq : told.targetCount = count
  skipped_eq : told.skipped = progress.skipped
  tally_eq : told.tally = progress.tally

namespace Pass

/-! ## The walk -/

/-- The messages to a target that is served fully are all counted. -/
theorem Serves.tried {campaign : Campaign α} {target : TargetRecord} {channels : List Channel}
    {tally total : Tally} {delivered : Bool} {rows : List (Message α)} {served : Served}
    (serves : Serves campaign target channels tally delivered rows total served)
    (fully : ∃ got, served = .fully got) (other : Channel) :
    total.tried other = tally.tried other + channels.count other := by
  induction serves with
  | done => rfl
  | sent records counts others ih =>
    rw [ih fully, Tally.tried_record counts, Nat.add_assoc, ← List.count_append]
    rfl
  | _ => obtain ⟨_, ⟨⟩⟩ := fully

/-- A visit logs messages to its target, as they have been composed. -/
theorem visit_logs {engine : Engine σ α} (asks : KeepsLog engine) (campaign : Campaign α)
    (isTest : Bool) (excluded : List Int) (progress : Progress) (target : TargetRecord) :
    Moves (LogsOnly fun row => row.Carries engine.settings campaign target row.channel)
      (visit engine campaign isTest excluded progress target) := by
  refine visit_moves_of ?_ (fun channel => ?_) excluded progress
  · exact record_moves (fun _ _ => .of_eq rfl) _ _ _ _
  · refine Send.message_logs (fun request => (asks request).mono fun _ _ => .of_eq)
      (fun _ _ => .of_eq rfl) (fun world row carries => ⟨[row], rfl, ?_⟩) isTest
    rw [List.forall_mem_singleton, carries.channel_eq]
    exact carries

/-- A walk that has gone over some targets has sent what was due to them. -/
structure Dispatched (settings : Settings) (setting : Setting α) (before : Store α)
    (done : List TargetRecord) (progress : Progress) (after : Store α) : Prop where
  logged : ∃ rows, after.messages = before.messages ++ rows ∧
    List.Forall₂ (fun row message => row.Carries settings setting.campaign message.1 message.2) rows
      (due setting.excluded setting.campaign.reach done)
  tried : ∀ channel, progress.tally.tried channel =
    ((due setting.excluded setting.campaign.reach done).map Prod.snd).count channel
  skipped : progress.skipped = done.countP fun target => setting.excluded.contains target.id

namespace Dispatched

variable {settings : Settings} {setting : Setting α} {before middle after : Store α}
  {done : List TargetRecord} {target : TargetRecord} {progress : Progress}

omit [Amount α] in
theorem start (settings : Settings) (setting : Setting α) (store : Store α) :
    Dispatched settings setting store [] .start store where
  logged := ⟨[], (List.append_nil _).symm, .nil⟩
  tried channel := by cases channel <;> rfl
  skipped := rfl

omit [Amount α] in
/-- One more target has been gone over. -/
theorem step {rows : List (Message α)} {found : Progress}
    (dispatched : Dispatched settings setting before done progress middle)
    (logged : after.messages = middle.messages ++ rows)
    (carry : List.Forall₂ (fun row message =>
      Message.Carries row settings setting.campaign message.1 message.2) rows
        (due setting.excluded setting.campaign.reach [target]))
    (tried : ∀ channel, found.tally.tried channel = progress.tally.tried channel +
      ((due setting.excluded setting.campaign.reach [target]).map Prod.snd).count channel)
    (skipped : found.skipped =
      progress.skipped + if setting.excluded.contains target.id then 1 else 0) :
    Dispatched settings setting before (done ++ [target]) found after where
  logged := by
    obtain ⟨old, oldLogged, oldCarry⟩ := dispatched.logged
    refine ⟨old ++ rows, by rw [logged, oldLogged, List.append_assoc], ?_⟩
    rw [due_append]
    exact List.rel_append oldCarry carry
  tried channel := by
    rw [tried, dispatched.tried, due_append, List.map_append, List.count_append]
  skipped := by
    rw [skipped, dispatched.skipped, List.countP_append, List.countP_singleton]

/-- A visit that goes on has sent what was due to its target. -/
theorem visit {rows : List (Message α)} {delivered : Bool} {found : Progress}
    (dispatched : Dispatched settings setting before done progress middle)
    (visits : Visits setting.campaign setting.excluded target progress rows delivered (.next found))
    (logged : after.messages = middle.messages ++ rows)
    (carries : ∀ row ∈ rows, row.Carries settings setting.campaign target row.channel) :
    Dispatched settings setting before (done ++ [target]) found after := by
  cases visits with
  | skipped excludes =>
    have nothing := due_of_excluded excludes setting.campaign.reach
    refine dispatched.step logged (nothing ▸ .nil) (fun channel => ?_) (by rw [if_pos excludes])
    rw [nothing]
    rfl
  | unreachable admits none =>
    have nothing : due setting.excluded setting.campaign.reach [target] = [] := by
      rw [due_of_admitted admits, none, List.map_nil]
    refine dispatched.step logged (nothing ▸ .nil) (fun channel => ?_) (by rw [admits]; rfl)
    rw [nothing]
    rfl
  | @served rows tally served visit admits serves goesOn =>
    cases goesOn with
    | next got =>
      have channels := serves.ends.1
      have all := due_of_admitted admits setting.campaign.reach
      refine dispatched.step logged ?_ (fun channel => ?_) (by rw [admits]; rfl)
      · rw [all, ← channels, List.map_map, List.forall₂_map_right_iff]
        exact List.forall₂_same.mpr carries
      · refine (serves.tried ⟨got, rfl⟩ channel).trans ?_
        rw [all, List.map_map]
        simp [Function.comp_def]

end Dispatched

/-- A walk whose limit cuts off nothing sends what is due to the targets that it meets, unless it is
stopped or fails. -/
theorem walk_dispatched (engine : OperatedEngine σ α) {setting : Setting α} {world : World σ α}
    (orderly : Orderly world.store)
    (admits : Audience.Admits setting.limit
      (setting.audience.met engine.batchSize world.store).length) :
    Leads (setting.walk engine.toEngine) world fun walked after =>
      walked.2 = none → walked.1.stopped = none →
        Dispatched engine.settings setting world.store
          (setting.audience.met engine.batchSize world.store) walked.1 after.store := by
  refine (Audience.walk_leads_met
    (I := fun done progress after =>
      Dispatched engine.settings setting world.store done progress after.store)
    (S := fun progress _ => progress.stopped.isSome)
    (visit_table engine setting.campaign setting.isTest setting.excluded setting.audience.kind)
    orderly.created (orderly.targets _) admits ?_ (.start _ _ _)).mono ?_
  · intro done target progress middle _ dispatched
    refine ((visit_leads (keepsLedgers engine) setting.campaign setting.isTest setting.excluded
      progress target middle).and ((visit_logs (keepsLog engine) setting.campaign setting.isTest
        setting.excluded progress target).leads middle)).mono ?_
    rintro visit after ⟨⟨rows, delivered, visits, logged, _⟩, others, logged', carries⟩
    obtain rfl := List.append_cancel_left (logged.symm.trans logged')
    cases visit with
    | next found => exact dispatched.visit visits logged carries
    | stop found =>
      cases visits with
      | cancelled => rfl
      | served admits serves goesOn => cases goesOn; rfl
    | giveUp found failure => exact trivial
  · rintro ⟨progress, failure | failure⟩ after ended through unstopped
    · refine ended.resolve_right fun stopped => ?_
      rw [unstopped] at stopped
      cases stopped
    · cases through

/-! ## The pass -/

omit [Amount α] in
/-- A pass that tells neither a pause nor a cancellation has not been stopped. -/
theorem Moved.unstopped {id : Int} {flag : σ → Prop} {stopped : Option Stopped}
    {after : World σ α} {status : CampaignStatus} (moved : Moved id flag stopped after status)
    (running : status ≠ .paused) (standing : status ≠ .cancelled) : stopped = none := by
  cases moved with
  | left exit _ going paused =>
    rcases stopped with _ | _ | _
    · rfl
    · exact absurd rfl going
    · rw [paused rfl] at running
      exact absurd rfl running
  | cancelled => exact absurd rfl standing

/-- A pass that returns, and tells neither a pause nor a cancellation, has not been stopped on its
walk, and tells what that has come to. -/
theorem conclude_tells {engine : Engine σ α} {id : Int} {flag : σ → Prop}
    (guarding : engine.Guarding id flag) {setting : Setting α} (own : setting.campaign.id = id)
    {walked : Progress × Option Failure} {world : World σ α} (guarded : Guarded id flag world)
    (cancelled : walked.1.stopped = some .cancelled → world.status? id = some .cancelled) :
    Ends (setting.conclude engine walked) world fun returned _ => ∀ told, returned = .ok told →
      told.status ≠ .paused → told.status ≠ .cancelled →
        walked.2 = none ∧ walked.1.stopped = none ∧ told.Tells setting.count walked.1 := by
  -- A pass that is closed with a failure does not return.
  have fails : ∀ {ledger : Ledger} {failure : Failure} {world : World σ α},
      Ends (close setting.campaign setting.isTest ledger (.error failure)) world
        fun returned _ => ∀ told, returned = .ok told → told.status ≠ .paused →
          told.status ≠ .cancelled →
            walked.2 = none ∧ walked.1.stopped = none ∧ told.Tells setting.count walked.1 := by
    intro ledger failure world
    refine (close_returns setting.campaign setting.isTest ledger _ world).mono ?_
    intro returned _ returns told same
    obtain ⟨_, _, _, ended, _⟩ := returns told same
    cases ended
  rcases walked with ⟨progress, _ | failure⟩
  · rw [Setting.conclude, ends_bind, ends_attempt, own]
    refine ((Lifecycle.apply_guards id id flag _ _).leads world).mono ?_
    rintro (failure | applied) middle guards
    · exact fails
    · dsimp only
      rw [ends_bind, ends_attempt]
      refine (finish_guarded guarding own (guards.guarded guarded) fun stops =>
        guards.cancelled (cancelled stops)).mono ?_
      rintro (failure | ⟨status, nextRunAt⟩) later finished
      · exact fails
      · obtain ⟨left, rfl, moved⟩ := finished
        refine (close_returns setting.campaign setting.isTest _ _ later).mono ?_
        intro returned _ returns told same running standing
        obtain ⟨status, next, reason, ended, rfl⟩ := returns told same
        cases ended
        have named : left.name ≠ "" := by
          cases moved with
          | left exit => cases exit <;> decide
          | cancelled => decide
        rw [result_status named] at running standing
        exact ⟨rfl, moved.unstopped running standing, rfl, rfl, rfl⟩
  · exact fails

omit [Amount α] in
/-- The size of the audience, if it is not known from an earlier pass, is the number of the targets
that the walk meets. -/
theorem Walks.count_met {engine : Engine σ α} {id : Int} {world middle : World σ α}
    {setting : Setting α} (walks : Walks engine id world setting middle)
    (orderly : Orderly middle.store) (unknown : knownCount setting.campaign = none) :
    setting.count = .int (setting.audience.met engine.batchSize middle.store).length ∧
      ∃ count, ((setting.audience.count engine.batchSize).run.run middle).1 = .ok count := by
  have counts := walks.count_eq
  have counted : Ends (targetCount engine setting.campaign setting.audience) middle fun result _ =>
      ∀ count, result = .ok count →
        count = .int (setting.audience.met engine.batchSize middle.store).length ∧
          ∃ count, ((setting.audience.count engine.batchSize).run.run middle).1 = .ok count := by
    rw [targetCount, unknown]
    dsimp only
    rw [ends_bind]
    refine Leads.mono ((Audience.count_met orderly.created (orderly.targets _)).and
      (show Ends (setting.audience.count engine.batchSize) middle fun result _ =>
        result = ((setting.audience.count engine.batchSize).run.run middle).1 from rfl)) ?_
    rintro (failure | count) after ⟨counts, same⟩ found ⟨⟩
    exact ⟨congrArg (fun count : Nat => Cell.int count) (counts count rfl), count, same.symm⟩
  exact counted _ counts

/-- A pass that returns, and tells neither a pause nor a cancellation, has sent what was due. -/
theorem execute_dispatched (engine : OperatedEngine σ α) (id : Int) {world : World σ α}
    (orderly : Orderly world.store)
    (unknown : ∀ old, world.store.campaign? id = some old → knownCount old = none) :
    Ends (execute engine.toEngine id) world fun returned after => ∀ told, returned = .ok told →
      told.status ≠ .paused → told.status ≠ .cancelled →
        ∃ setting middle progress, Walks engine.toEngine id world setting middle ∧
          told.Tells setting.count progress ∧
            Dispatched engine.settings setting middle.store
              (setting.audience.met engine.batchSize middle.store) progress after.store := by
  refine execute_ends ?_ ?_ ?_
  · exact fun _ _ same => by cases same
  · intro old campaign isTest count failure middle claims
    refine (close_returns campaign isTest _ _ middle).mono fun _ _ returns told same => ?_
    obtain ⟨_, _, _, ended, _⟩ := returns told same
    cases ended
  · intro setting middle walks
    obtain ⟨old, claims, _⟩ := walks.claims
    have orderly : Orderly middle.store := orderly.of_plans claims.plans_eq
    have fresh : knownCount setting.campaign = none := by
      rw [claims.campaign_eq]
      exact unknown old claims.found
    have limit := walks.limit_eq
    rw [(walks.count_met orderly fresh).1] at limit
    have admits : Audience.Admits setting.limit
        (setting.audience.met engine.batchSize middle.store).length := by
      rw [← Except.ok.inj limit]
      rintro most ⟨⟩
      exact Int.le_refl _
    have guarding := (engine.attended id).guarding
    have guarded : Guarded id (fun _ => True) middle := claims.guarded
    refine ((walk_dispatched engine orderly admits).and
      (walk_guarded guarding claims.id_eq guarded)).mono ?_
    rintro walked later ⟨dispatched, guarded, cancelled⟩
    refine ((conclude_tells guarding claims.id_eq guarded cancelled).and
      ((conclude_moves (settles_log engine) setting walked).leads later)).mono ?_
    rintro returned after ⟨tells, log⟩ told same running standing
    obtain ⟨through, unstopped, tells⟩ := tells told same running standing
    have dispatched := dispatched through unstopped
    refine ⟨setting, middle, walked.1, walks, tells, ?_, dispatched.tried, dispatched.skipped⟩
    obtain ⟨rows, logged, carry⟩ := dispatched.logged
    exact ⟨rows, log.trans logged, carry⟩

end Pass

end Herald
