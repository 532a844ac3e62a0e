import Herald.Forecast
import Herald.Proofs.Coverage
import Herald.Proofs.Dispatch

/-! # A pass does what was forecast

A count, a preview and a pass go over the same targets, each in a walk of its own. A pass that
returns, and is neither paused nor cancelled on its way, has counted, left out, addressed and
composed exactly what was counted and shown before it, whatever has happened around it meanwhile.
-/

namespace Herald

variable {σ α : Type}

/-! ## Counting -/

/-- Whether a campaign uses a channel. -/
def Reach.needs (reach : Reach) : Channel → Bool
  | .sms => reach.needsPhone
  | .email => reach.needsEmail

/-- Whether a target can be reached on a channel. -/
def TargetRecord.has (target : TargetRecord) : Channel → Bool
  | .sms => target.hasPhone
  | .email => target.hasEmail

/-- How many targets can be reached on a channel. -/
def EligibleCounts.on (counts : EligibleCounts) : Channel → Nat
  | .sms => counts.sms
  | .email => counts.email

/-- The counts of some targets. -/
structure EligibleCounts.Counts (counts : EligibleCounts) (excluded : List Int)
    (targets : List TargetRecord) : Prop where
  total_eq : counts.total = targets.length
  inCooldown_eq : counts.inCooldown = targets.countP fun target => excluded.contains target.id
  eligible_eq : counts.eligible = targets.countP fun target => !excluded.contains target.id
  on_eq : ∀ channel, counts.on channel =
    targets.countP fun target => !excluded.contains target.id && target.has channel

theorem EligibleCounts.Counts.step {counts : EligibleCounts} {excluded : List Int}
    {done : List TargetRecord} (is : counts.Counts excluded done) (target : TargetRecord) :
    (Forecast.countTarget excluded counts target).Counts excluded (done ++ [target]) := by
  have on := is.on_eq
  unfold Forecast.countTarget
  constructor
  case on_eq =>
    intro channel
    rw [List.countP_append, List.countP_singleton, ← on]
    cases excluded.contains target.id <;> cases channel <;> rfl
  all_goals
    simp only [List.length_append, List.length_singleton, List.countP_append,
      List.countP_singleton, ← is.total_eq, ← is.inCooldown_eq, ← is.eligible_eq]
    cases excluded.contains target.id <;> rfl

theorem count_channelsFor (reach : Reach) (target : TargetRecord) (channel : Channel) :
    (channelsFor reach target).count channel =
      if reach.needs channel && target.has channel then 1 else 0 := by
  unfold channelsFor
  by_cases phone : (reach.needsPhone && target.hasPhone) = true <;>
    by_cases mail : (reach.needsEmail && target.hasEmail) = true <;>
      cases channel <;> simp only [Reach.needs, TargetRecord.has, phone, mail, ↓reduceIte] <;> rfl

/-- A message is due on a channel of a campaign to everyone who can be reached on it, and none on a
channel that the campaign does not use. -/
theorem count_due (reach : Reach) (channel : Channel) (excluded : List Int)
    (targets : List TargetRecord) :
    ((due excluded reach targets).map Prod.snd).count channel = targets.countP fun target =>
      !excluded.contains target.id && (reach.needs channel && target.has channel) := by
  induction targets with
  | nil => rfl
  | cons target rest ih =>
    rw [← List.singleton_append, due_append, List.map_append, List.count_append, ih,
      List.countP_append]
    congr 1
    cases excludes : excluded.contains target.id with
    | true =>
      rw [due_of_excluded excludes, List.countP_singleton, excludes]
      rfl
    | false =>
      rw [due_of_admitted excludes, List.map_map]
      refine (congrArg (List.count channel) (List.map_id'' (fun _ => rfl) _)).trans ?_
      rw [count_channelsFor, List.countP_singleton, excludes]
      rfl

/-! ## Previews -/

/-- A target has a contact on each of its channels. -/
theorem contact_isSome {reach : Reach} {target : TargetRecord} {channel : Channel}
    (on : channel ∈ channelsFor reach target) : (target.contact channel).isSome := by
  have has : (reach.needs channel && target.has channel) = true := by
    have counted := count_channelsFor reach target channel
    have positive := List.count_pos_iff.mpr on
    by_contra missing
    rw [counted, if_neg missing] at positive
    exact absurd positive (Nat.lt_irrefl 0)
  rw [Bool.and_eq_true] at has
  cases channel with
  | sms => exact Option.isSome_of_any has.2
  | email => exact Option.isSome_of_any has.2

/-- An entry of a preview shows the message that is due to a target on a channel. -/
structure MessagePreview.Shows (entry : MessagePreview) (settings : Settings)
    (campaign : Campaign α) (target : TargetRecord) (channel : Channel) : Prop where
  targetId_eq : entry.targetId = target.id
  channel_eq : entry.channel = channel
  recipient_eq : entry.recipient = target.contact channel
  reachable : (target.contact channel).isSome
  composed : ∃ message,
    Composed.of settings campaign.content target.attributes channel = .ok message ∧
      entry.content = message.content ∧ entry.subject = message.subject ∧
        entry.segments = message.segments

/-- A preview of the targets so far, which shows all messages that are due to them. -/
structure Preview.Shows (preview : Preview) (settings : Settings) (campaign : Campaign α)
    (excluded : List Int) (targets : List TargetRecord) : Prop where
  total_eq : preview.total = targets.length
  eligible_eq : preview.eligible = targets.countP fun target => !excluded.contains target.id
  messages : List.Forall₂ (fun message entry =>
    entry.Shows settings campaign message.1 message.2) (due excluded campaign.reach targets)
      preview.messages

section Previews

variable {settings : Settings} {campaign : Campaign α} {excluded : List Int}

/-- The messages to a target that can be composed are shown. -/
theorem Forecast.messagePreviews_ok [Amount α] {target : TargetRecord} (keys : List String)
    (composes : ∀ channel ∈ channelsFor campaign.reach target, ∃ message,
      Composed.of settings campaign.content target.attributes channel = .ok message) :
    ∃ entries, (channelsFor campaign.reach target).mapM
        (messagePreview settings campaign keys target) = .ok entries ∧
      List.Forall₂ (fun channel entry => MessagePreview.Shows entry settings campaign target channel)
        (channelsFor campaign.reach target) entries := by
  obtain ⟨entries, shown⟩ := exists_ok_mapM (f := messagePreview settings campaign keys target)
    fun channel on => exists_ok_bind (composes channel on) fun _ => ⟨_, rfl⟩
  refine ⟨entries, shown, ?_⟩
  have entry : ∀ channel ∈ channelsFor campaign.reach target, ∀ entry,
      messagePreview settings campaign keys target channel = .ok entry →
        entry.Shows settings campaign target channel := by
    intro channel on entry shown
    obtain ⟨message, composed, shown⟩ := ok_of_bind shown
    cases shown
    exact ⟨rfl, rfl, rfl, contact_isSome on, message, composed, rfl, rfl, rfl⟩
  exact ((List.forall₂_and_left _ _).mpr ⟨entry, forall₂_of_mapM shown⟩).imp
    fun channel entry both => both.1 entry both.2

/-- A preview goes on at a target whose messages can be composed. -/
theorem Preview.Shows.step [Amount α] {preview : Preview} {done : List TargetRecord}
    {target : TargetRecord} (shows : preview.Shows settings campaign excluded done)
    (keys : List String) {limit : Int}
    (within : ((done ++ [target]).countP fun target => !excluded.contains target.id) ≤ limit)
    (composes : ∀ message ∈ due excluded campaign.reach [target], ∃ composed,
      Composed.of settings campaign.content message.1.attributes message.2 = .ok composed) :
    ∃ next, Forecast.previewTarget settings campaign keys excluded limit preview target =
        .next next ∧ next.Shows settings campaign excluded (done ++ [target]) := by
  have total : preview.total + 1 = (done ++ [target]).length := by
    rw [List.length_append, List.length_singleton, shows.total_eq]
  have counts : (done ++ [target]).countP (fun target => !excluded.contains target.id) =
      preview.eligible + if !excluded.contains target.id then 1 else 0 := by
    rw [List.countP_append, List.countP_singleton, shows.eligible_eq]
  rw [counts] at within
  unfold Forecast.previewTarget
  cases excludes : excluded.contains target.id with
  | true =>
    refine ⟨_, rfl, total, ?_, ?_⟩
    · rw [counts, excludes]
      rfl
    · rw [due_append, due_of_excluded excludes, List.append_nil]
      exact shows.messages
  | false =>
    rw [excludes] at within
    rw [due_of_admitted excludes] at composes
    obtain ⟨entries, shown, entry⟩ := Forecast.messagePreviews_ok keys
      fun channel on => composes (target, channel) (List.mem_map_of_mem on)
    have room : ¬ limit < (preview.eligible + 1 : Nat) := Int.not_lt.mpr within
    simp only [Bool.false_eq_true, ↓reduceIte, room, shown]
    refine ⟨_, rfl, total, ?_, ?_⟩
    · rw [counts, excludes]
      rfl
    · rw [due_append, due_of_admitted excludes]
      exact List.rel_append shows.messages (List.forall₂_map_left_iff.mpr entry)

end Previews

/-- A row of the log is the message that an entry of a preview has shown. -/
structure MessagePreview.Foretells (entry : MessagePreview) (row : Message α) : Prop where
  targetId_eq : row.targetId = entry.targetId
  channel_eq : row.channel = entry.channel
  recipient_eq : some row.recipient = entry.recipient.map Text.trimmed
  content_eq : row.content = entry.content
  subject_eq : row.subject = entry.subject
  segments_eq : row.segments = entry.segments

/-- What is due is sent as it has been shown. -/
theorem MessagePreview.Shows.foretells {entry : MessagePreview} {row : Message α}
    {settings : Settings} {campaign : Campaign α} {target : TargetRecord} {channel : Channel}
    (shows : entry.Shows settings campaign target channel)
    (carries : row.Carries settings campaign target channel) : entry.Foretells row := by
  obtain ⟨shown, composed, content, subject, segments⟩ := shows.composed
  obtain ⟨sent, composed', content', subject', segments'⟩ := carries.composed
  cases composed.symm.trans composed'
  obtain ⟨contact, there⟩ := Option.isSome_iff_exists.mp shows.reachable
  refine ⟨carries.targetId_eq.trans shows.targetId_eq.symm,
    carries.channel_eq.trans shows.channel_eq.symm, ?_, content'.trans content.symm,
    subject'.trans subject.symm, segments'.trans segments.symm⟩
  rw [shows.recipient_eq, carries.recipient_eq, there]
  rfl

/-- What has been sent could be composed. -/
theorem composes_of_carry {settings : Settings} {campaign : Campaign α}
    {messages : List (TargetRecord × Channel)} {rows : List (Message α)}
    (carry : List.Forall₂ (fun row message =>
      Message.Carries row settings campaign message.1 message.2) rows messages) :
    ∀ message ∈ messages, ∃ composed,
      Composed.of settings campaign.content message.1.attributes message.2 = .ok composed := by
  induction carry with
  | nil => exact List.forall_mem_nil _
  | cons carries _ ih =>
    exact List.forall_mem_cons.mpr ⟨carries.composed.imp fun _ => And.left, ih⟩

/-- What has been shown of some messages and what has been sent of them go together. -/
theorem foretell {settings : Settings} {campaign : Campaign α}
    {messages : List (TargetRecord × Channel)} {entries : List MessagePreview}
    {rows : List (Message α)}
    (shows : List.Forall₂ (fun message entry =>
      MessagePreview.Shows entry settings campaign message.1 message.2) messages entries)
    (carry : List.Forall₂ (fun row message =>
      Message.Carries row settings campaign message.1 message.2) rows messages) :
    List.Forall₂ MessagePreview.Foretells entries rows := by
  induction shows generalizing rows with
  | nil =>
    cases carry
    exact .nil
  | cons shows _ ih =>
    cases carry with
    | cons carries carry => exact .cons (shows.foretells carries) (ih carry)

/-! ## Forecasts -/

/-- What a pass looks for before its claim is what it finds behind it. -/
theorem Pass.Claims.excludedIn_eq [Amount α] {id : Int} {world middle : World σ α}
    {old campaign : Campaign α} (claims : Claims id world old campaign middle) :
    excludedIn middle.now middle.store campaign = excludedIn world.now world.store old := by
  have plan : campaign.plan = old.plan := by rw [claims.campaign_eq]; rfl
  rw [excludedIn_plan plan, claims.middle_eq]
  rfl

namespace Forecast

variable {engine : Engine σ α} {campaign : Campaign α} {world : World σ α}
  {predicate : Predicate} {excluded : List Int}

/-- What a forecast goes by has been found, and its targets can be counted. -/
structure Prepared (engine : Engine σ α) (campaign : Campaign α) (world : World σ α)
    (predicate : Predicate) (excluded : List Int) : Prop where
  orderly : Orderly world.store
  compiled : Pass.compileIn world.store campaign = .ok predicate
  excluded_eq : Pass.excludedIn world.now world.store campaign = .ok excluded
  counted : Ends ((campaign.audience predicate world).count engine.batchSize) world
    fun result _ => ∃ count, result = .ok count

/-- The targets of a forecast. -/
def targets (engine : Engine σ α) (campaign : Campaign α) (world : World σ α)
    (predicate : Predicate) : List TargetRecord :=
  (campaign.audience predicate world).met engine.batchSize world.store

namespace Prepared

theorem prepare_ends (prepared : Prepared engine campaign world predicate excluded)
    {after : Except Failure (Audience × List Int) → World σ α → Prop} :
    Ends (prepare campaign) world after ↔
      after (.ok (campaign.audience predicate world, excluded)) world := by
  rw [prepare, ends_bind, Pass.compile_ends prepared.orderly.created, prepared.compiled]
  dsimp only
  rw [ends_bind, Pass.excludedTargets_ends prepared.orderly.created, prepared.excluded_eq]
  exact Iff.rfl

/-- The targets of a forecast that can be counted are counted. -/
theorem eligibleCounts_ends (prepared : Prepared engine campaign world predicate excluded) :
    Ends (eligibleCounts engine campaign) world fun counted after => after = world ∧
      ∃ counts, counted = .ok counts ∧
        counts.Counts excluded (targets engine campaign world predicate) := by
  rw [eligibleCounts, ends_bind, prepared.prepare_ends]
  have none : EligibleCounts.Counts ⟨0, 0, 0, 0, 0, 0⟩ excluded [] :=
    ⟨rfl, rfl, rfl, fun channel => by cases channel <;> rfl⟩
  exact Audience.fold_follows prepared.orderly.created (prepared.orderly.targets _) rfl
    (I := fun done (counts : EligibleCounts) => counts.Counts excluded done)
    (fun done target counts is => is.step target) none 0 prepared.counted

/-- A preview shows the messages that are due, if it has room for all targets that are not left out
and the messages can be composed. -/
theorem preview_ends [Amount α] (prepared : Prepared engine campaign world predicate excluded)
    {limit : Int}
    (room : ((targets engine campaign world predicate).countP fun target =>
      !excluded.contains target.id) ≤ limit)
    (composes : ∀ message ∈
      due excluded campaign.reach (targets engine campaign world predicate), ∃ composed,
        Composed.of engine.settings campaign.content message.1.attributes message.2 =
          .ok composed) :
    Ends (preview engine campaign limit) world fun shown after => after = world ∧
      ∃ preview, shown = .ok preview ∧ preview.Shows engine.settings campaign excluded
        (targets engine campaign world predicate) := by
  rw [preview, ends_bind, prepared.prepare_ends]
  dsimp only
  rw [ends_bind, ends_lift]
  have none : Preview.Shows ⟨0, 0, []⟩ engine.settings campaign excluded [] := ⟨rfl, rfl, .nil⟩
  refine Leads.mono (Audience.walk_follows prepared.orderly.created (prepared.orderly.targets _) rfl
    (I := fun done (preview : Preview) =>
      preview.Shows engine.settings campaign excluded done) ?_ none 0 prepared.counted) ?_
  · intro done target preview further shows
    refine shows.step _ ?_ ?_
    · refine le_trans ?_ room
      exact_mod_cast further.sublist.countP_le
    · intro message member
      obtain ⟨rest, split⟩ := further
      refine composes message ?_
      rw [targets, ← split, due_append, due_append]
      exact List.mem_append_left _ (List.mem_append_right _ member)
  · rintro _ _ ⟨rfl, preview, rfl, shows⟩
    exact ⟨rfl, preview, rfl, shows⟩

end Prepared

/-- What has been counted and shown before a pass is what it tells and what it logs. -/
structure Agrees (engine : Engine σ α) (campaign : Campaign α) (world : World σ α)
    (told : PassResult) (rows : List (Message α)) (counts : EligibleCounts) : Prop where
  total_eq : told.targetCount = .int counts.total
  inCooldown_eq : told.skipped = counts.inCooldown
  tried_eq : ∀ channel, campaign.reach.needs channel = true →
    told.tally.tried channel = counts.on channel
  preview_ends : ∀ limit : Int, counts.eligible ≤ limit →
    Ends (preview engine campaign limit) world fun shown after => after = world ∧
      ∃ preview, shown = .ok preview ∧ preview.total = counts.total ∧
        preview.eligible = counts.eligible ∧
          List.Forall₂ MessagePreview.Foretells preview.messages rows

/-- What forecasts go by is what a pass has told and logged, so they agree with it. -/
theorem Prepared.agrees [Amount α]
    (prepared : Prepared engine campaign world predicate excluded) {told : PassResult}
    {rows : List (Message α)}
    (counted : told.targetCount = .int (targets engine campaign world predicate).length)
    (skipped : told.skipped = (targets engine campaign world predicate).countP fun target =>
      excluded.contains target.id)
    (tried : ∀ channel, told.tally.tried channel = ((due excluded campaign.reach
      (targets engine campaign world predicate)).map Prod.snd).count channel)
    (carry : List.Forall₂ (fun row message =>
      Message.Carries row engine.settings campaign message.1 message.2) rows
        (due excluded campaign.reach (targets engine campaign world predicate))) :
    Ends (eligibleCounts engine campaign) world fun found after => after = world ∧
      ∃ counts, found = .ok counts ∧ Agrees engine campaign world told rows counts := by
  refine prepared.eligibleCounts_ends.mono ?_
  rintro _ after ⟨same, counts, rfl, is⟩
  refine ⟨same, counts, rfl, ?_, ?_, fun channel needs => ?_, fun limit room => ?_⟩
  · rw [counted, is.total_eq]
  · rw [skipped, is.inCooldown_eq]
  · rw [tried, count_due, is.on_eq]
    simp only [needs, Bool.true_and]
  · refine (prepared.preview_ends (is.eligible_eq ▸ room) (composes_of_carry carry)).mono ?_
    rintro _ _ ⟨same, preview, rfl, shows⟩
    exact ⟨same, preview, rfl, shows.total_eq.trans is.total_eq.symm,
      shows.eligible_eq.trans is.eligible_eq.symm, foretell shows.messages carry⟩

end Forecast

/-! ## The pass -/

namespace Pass

variable [Amount α] {engine : OperatedEngine σ α} {id : Int} {world middle : World σ α}
  {setting : Setting α} {old : Campaign α}

/-- A pass that has counted its audience goes by what forecasts go by. -/
theorem Walks.prepared (walks : Walks engine.toEngine id world setting middle)
    (orderly : Orderly world.store) (found : world.store.campaign? id = some old)
    (unknown : knownCount old = none) : ∃ predicate,
      Forecast.Prepared engine.toEngine old world predicate setting.excluded ∧
        setting.audience.met engine.batchSize middle.store =
          Forecast.targets engine.toEngine old world predicate := by
  obtain ⟨_, claims, predicate, compiled, audience⟩ := walks.claims
  cases found.symm.trans claims.found
  have ordered : Orderly middle.store := orderly.of_plans claims.plans_eq
  have fresh : knownCount setting.campaign = none := by
    rw [claims.campaign_eq]
    exact unknown
  have audience : setting.audience = old.audience predicate world := audience
  have table : world.table setting.audience.kind = middle.table setting.audience.kind :=
    Prod.ext (orderly.created.trans ordered.created.symm)
      (Store.targets_of_plans claims.plans_eq.symm _)
  have counts : Ends (setting.audience.count engine.batchSize) world fun result _ =>
      ∃ count, result = .ok count :=
    (Audience.fold_follows ordered.created (ordered.targets _) table (I := fun _ _ => True)
      (fun _ _ _ _ => trivial) trivial 0 (walks.count_met ordered fresh).2).mono
        fun _ _ follows => follows.2.imp fun _ => And.left
  refine ⟨predicate, ⟨orderly, compiled, claims.excludedIn_eq.symm.trans walks.excluded_eq,
    audience ▸ counts⟩, ?_⟩
  rw [Forecast.targets, ← audience, Audience.met_congr table]

end Pass

/-- A pass that returns, and is neither paused nor cancelled, has done what was forecast for its
campaign, if the size of its audience is not known from an earlier pass. -/
theorem forecasts_agree [Amount α] (engine : OperatedEngine σ α) (id : Int) {world : World σ α}
    {campaign : Campaign α} (orderly : Orderly world.store)
    (found : world.store.campaign? id = some campaign)
    (fresh : campaign.isAutomated = true ∨ campaign.targetCount.isZero = true) :
    Ends (Pass.execute engine.toEngine id) world fun returned after => ∀ told, returned = .ok told →
      told.status ≠ .paused → told.status ≠ .cancelled →
        ∃ rows, after.store.messages = world.store.messages ++ rows ∧
          Ends (Forecast.eligibleCounts engine.toEngine campaign) world fun counted later =>
            later = world ∧ ∃ counts, counted = .ok counts ∧
              Forecast.Agrees engine.toEngine campaign world told rows counts := by
  have unknown : Pass.knownCount campaign = none := if_pos (Bool.or_eq_true _ _ ▸ fresh)
  refine (Pass.execute_dispatched engine id orderly fun old there => by
    cases found.symm.trans there
    exact unknown).mono ?_
  intro returned after dispatches told same running standing
  obtain ⟨setting, middle, progress, walks, tells, dispatched⟩ :=
    dispatches told same running standing
  obtain ⟨old, claims, _⟩ := walks.claims
  cases found.symm.trans claims.found
  obtain ⟨predicate, prepared, met⟩ := walks.prepared orderly found unknown
  have reach : setting.campaign.reach = campaign.reach := by rw [claims.campaign_eq]; rfl
  have content : setting.campaign.content = campaign.content := by rw [claims.campaign_eq]; rfl
  obtain ⟨rows, logged, carry⟩ := dispatched.logged
  have count := (walks.count_met (orderly.of_plans claims.plans_eq) (by
    rw [claims.campaign_eq]
    exact unknown)).1
  have tried := dispatched.tried
  have skipped := dispatched.skipped
  rw [met, reach] at carry tried
  rw [met] at count skipped
  refine ⟨rows, logged.trans (by rw [claims.messages_eq]), prepared.agrees ?_ ?_ ?_ ?_⟩
  · rw [tells.targetCount_eq, count]
  · rw [tells.skipped_eq, skipped]
  · exact fun channel => by rw [tells.tally_eq, tried]
  · exact carry.imp fun row message carries =>
      ⟨carries.targetId_eq, carries.channel_eq, carries.recipient_eq, content ▸ carries.composed⟩

namespace Sample

/-- The campaign has no pass behind it. -/
theorem funded_fresh : ((funded 5 : World Unit Exact).store.campaign? 1).any (fun campaign =>
    campaign.targetCount.isZero) = true ∧
      (funded 5 : World Unit Exact).store.messages.isEmpty = true := by decide +kernel

/-- The pass returns with both messages sent, and was neither paused nor cancelled. -/
theorem funded_completes :
    Ends (Pass.execute (engine : OperatedEngine Unit Exact).toEngine 1) (funded 5)
      fun returned after => after.store.messages.length = 2 ∧
        ∃ told, returned = .ok told ∧ told.status = .completed := by
  have facts : Ends (Pass.execute (engine : OperatedEngine Unit Exact).toEngine 1) (funded 5)
      fun returned after => after.store.messages.length = 2 ∧
        returned.toOption.map PassResult.status = some .completed := by
    unfold Ends Leads
    decide +kernel
  refine Leads.mono facts ?_
  rintro returned after ⟨two, status⟩
  obtain ⟨told, some, status⟩ := Option.map_eq_some_iff.mp status
  exact ⟨two, told, ok_of_toOption some, status⟩

end Sample

theorem sample_forecasts_agree :
    let engine : OperatedEngine Unit Exact := Sample.engine
    let world : World Unit Exact := Sample.funded 5
    ∃ campaign : Campaign Exact, (Orderly world.store ∧ world.store.campaign? 1 = some campaign ∧
        (campaign.isAutomated = true ∨ campaign.targetCount.isZero = true)) ∧
      Ends (Pass.execute engine.toEngine 1) world fun _ after => ∃ told rows, rows.length = 2 ∧
        after.store.messages = rows ∧
          Ends (Forecast.eligibleCounts engine.toEngine campaign) world fun counted _ =>
            ∃ counts, counted = .ok counts ∧
              Forecast.Agrees engine.toEngine campaign world told rows counts := by
  intro engine world
  have orderly : Orderly world.store := orderly_after _ _ _
  have none : world.store.messages = [] := List.isEmpty_iff.mp Sample.funded_fresh.2
  obtain ⟨campaign, found, fresh⟩ := (Option.any_eq_true _ _).mp Sample.funded_fresh.1
  refine ⟨campaign, ⟨orderly, found, .inr fresh⟩, (Sample.funded_completes.and
    (forecasts_agree engine 1 orderly found (.inr fresh))).mono ?_⟩
  rintro _ after ⟨⟨two, told, rfl, status⟩, agrees⟩
  obtain ⟨rows, logged, agrees⟩ := agrees told rfl (by rw [status]; exact CampaignStatus.noConfusion)
    (by rw [status]; exact CampaignStatus.noConfusion)
  rw [none, List.nil_append] at logged
  exact ⟨told, rows, logged ▸ two, logged, agrees.mono fun _ _ counted => counted.2⟩

end Herald
