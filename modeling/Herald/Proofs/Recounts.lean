import Mathlib.Algebra.Group.Prod
import Herald.Proofs.Aggregates
import Herald.Proofs.Attempts
import Herald.Proofs.Outcomes

/-! # What a pass adds up, whatever ends it

A pass records every message that it has logged in its tally, and adds the tally to the sums of its
campaign once, also when it fails or somebody has cancelled the campaign meanwhile. Other than for
exact amounts, the tally is followed message by message here: `Tally.Recounts` is the run of
`Tally.record` over the rows of a log.
-/

namespace Herald

variable {σ α : Type}

/-! ## Counting rows -/

section Recounts

variable [Amount α]

/-- Some rows recorded in a tally one after the other, each with what became of its message. -/
inductive Tally.Recounts (campaign : Campaign α) : Tally → List (Message α) → Tally → Prop
  | none (tally : Tally) : Recounts campaign tally [] tally
  | row {tally counted total : Tally} {row : Message α} {rows : List (Message α)}
    {target : TargetRecord} {sent : Sent} (records : row.Records campaign target row.channel sent)
    (counts : tally.record row.channel sent = .ok counted)
    (others : Recounts campaign counted rows total) : Recounts campaign tally (row :: rows) total

theorem Tally.Recounts.append {campaign : Campaign α} {tally middle total : Tally}
    {rows more : List (Message α)} (first : Recounts campaign tally rows middle)
    (second : Recounts campaign middle more total) : Recounts campaign tally (rows ++ more) total := by
  induction first with
  | none => exact second
  | row records counts others ih => exact .row records counts (ih second)

theorem Tally.Recounts.imp {campaign other : Campaign α} {tally total : Tally}
    {rows : List (Message α)} (recounts : Recounts campaign tally rows total)
    (same : ∀ {row : Message α} {target channel sent}, row.Records campaign target channel sent →
      row.Records other target channel sent) : Recounts other tally rows total := by
  induction recounts with
  | none tally => exact .none tally
  | row records counts others ih => exact .row (same records) counts ih

/-- The sums of a campaign gain what has become of the messages of some rows. -/
def Campaign.Gains (rows : List (Message α)) (old new : Campaign α) : Prop :=
  ∃ tally, Tally.Recounts old .empty rows tally ∧
    ∀ channel, (tally.channel channel).addTo (old.sums channel) = .ok (new.sums channel)

/-! ### The numbers of rows -/

/-- How many messages have gone out, been delivered and failed. -/
def ChannelTally.numbers (tally : ChannelTally) : ℕ × ℕ × ℕ :=
  (tally.sent, tally.delivered, tally.failed)

/-- What a single message counts for. -/
def MessageStatus.numbers : MessageStatus → ℕ × ℕ × ℕ
  | .sent => (1, 0, 0)
  | .delivered => (1, 1, 0)
  | .failed => (0, 0, 1)

/-- What messages count for on a channel. -/
def numbersOn (channel : Channel) (rows : List (Message α)) : ℕ × ℕ × ℕ :=
  ((rows.filter fun row => row.channel == channel).map fun row => row.status.numbers).sum

theorem Tally.record_numbers {tally counted : Tally} {channel : Channel} {sent : Sent}
    (counts : tally.record channel sent = .ok counted) (other : Channel) :
    (counted.channel other).numbers = (tally.channel other).numbers +
      if other = channel then sent.status.numbers else 0 := by
  have success : ∀ {cost : Decimal} {delivered : Bool},
      tally.success channel cost delivered = .ok counted →
        (counted.channel other).numbers = (tally.channel other).numbers +
          if other = channel then (1, if delivered then 1 else 0, 0) else 0 := by
    intro cost delivered counts
    rw [Tally.success, ChannelTally.success] at counts
    split at counts
    · cases counts
      rw [channel_withChannel]
      split
      · rename_i same
        rw [same]
        rfl
      · exact (add_zero _).symm
    · cases counts
  cases sent with
  | charged cost => exact success counts
  | simulated => exact success counts
  | rejected =>
    cases counts
    rw [Tally.failure, channel_withChannel]
    split
    · rename_i same
      rw [same]
      rfl
    · exact (add_zero _).symm

/-- A tally counts the rows on each channel. -/
theorem Tally.Recounts.numbers_eq {campaign : Campaign α} {tally total : Tally}
    {rows : List (Message α)} (recounts : Recounts campaign tally rows total) (channel : Channel) :
    (total.channel channel).numbers = (tally.channel channel).numbers + numbersOn channel rows := by
  induction recounts with
  | none => exact (add_zero _).symm
  | @row tally counted total row rows target sent records counts others ih =>
    rw [ih, Tally.record_numbers counts, add_assoc, ← records.status_eq]
    congr 1
    by_cases same : channel = row.channel
    · simp [numbersOn, same]
    · simp [numbersOn, same, Ne.symm same]

/-- The sums of a campaign gain the numbers of the rows. -/
theorem Campaign.Gains.numbers {rows : List (Message α)} {old new : Campaign α}
    (gains : old.Gains rows new) (channel : Channel) :
    (new.sums channel).sent = (old.sums channel).sent.plus (numbersOn channel rows).1 ∧
    (new.sums channel).delivered = (old.sums channel).delivered.plus (numbersOn channel rows).2.1 ∧
    (new.sums channel).failed = (old.sums channel).failed.plus (numbersOn channel rows).2.2 := by
  obtain ⟨tally, recounts, adds⟩ := gains
  have numbers := recounts.numbers_eq channel
  have none : (Tally.empty.channel channel).numbers = 0 := by cases channel <;> rfl
  rw [none, zero_add] at numbers
  rw [← numbers]
  have added := adds channel
  rw [ChannelTally.addTo] at added
  generalize (if (tally.channel channel).cost.isZero then _ else _) = cost? at added
  cases cost? with
  | none => cases added
  | some cost =>
    rw [← Except.ok.inj added]
    exact ⟨rfl, rfl, rfl⟩

end Recounts

/-! ## Adding up -/

/-- The sums of a campaign that is there remain as they are. -/
def SumsStay (id : Int) (before after : World σ α) : Prop :=
  ∀ sums, before.store.sums? id = some sums → after.store.sums? id = some sums

instance (id : Int) : IsPreorder (World σ α) (SumsStay id) where
  refl _ _ found := found
  trans _ _ _ first second _ found := second _ (first _ found)

theorem sumsStay_allows (id : Int) : Lifecycle.Allows (SumsStay id : World σ α → World σ α → Prop) :=
  fun world target condition _ keeps _ found => (view_of_standing sums?_standing
    (standing_updateCampaign world.store target condition keeps)) ▸ found

theorem Attended.sumsStay [Amount α] {target : Int} {before after : World σ α}
    (attended : Attended target before after) (id : Int) : SumsStay id before after := by
  refine attended.related (R := SumsStay id) (sumsStay_allows id) (fun _ _ =>
    Lifecycle.create_moves fun world now _ sums here => ?_) fun _ _ same _ here => same ▸ here
  obtain ⟨old, found, rfl⟩ := Option.map_eq_some_iff.mp here
  rw [Store.sums?, campaign?_append found, Option.map_some]

/-- The sums of a campaign that is there have a tally added to them. -/
def SumsGain [Amount α] (id : Int) (tally : Tally) (before after : World σ α) : Prop :=
  ∀ sums, before.store.sums? id = some sums → ∃ added, after.store.sums? id = some added ∧
    ∀ channel, (tally.channel channel).addTo (sums channel) = .ok (added channel)

theorem SumsGain.on [Amount α] {id : Int} {tally : Tally} {before middle after : World σ α}
    (adds : SumsGain id tally before middle) (stay : SumsStay id middle after) :
    SumsGain id tally before after := by
  intro sums found
  obtain ⟨added, found', adds⟩ := adds sums found
  exact ⟨added, stay added found', adds⟩

theorem SumsGain.of_isEmpty [Amount α] {id : Int} {tally : Tally} (empty : tally.isEmpty = true)
    (world : World σ α) : SumsGain id tally world world := by
  simp only [Tally.isEmpty, Bool.and_eq_true] at empty
  refine fun sums found => ⟨sums, found, fun channel => ?_⟩
  cases channel with
  | sms => exact ChannelTally.addTo_of_isEmpty empty.1 _
  | email => exact ChannelTally.addTo_of_isEmpty empty.2 _

/-- A bounded tally is added to sums that can be added to, if there is anything to add. -/
theorem Lifecycle.apply_sumsGain {id : Int} {tally : Tally} (within : tally.IsWithin)
    {world : World σ Binary64} (created : world.store.created = true) (fits : Cell.fits id = true)
    (addable : world.store.Addable id) (count : Option Cell) :
    Ends (apply id tally count) world fun result after => SumsGain id tally world after ∧
      ∃ applied, result = .ok applied ∧ (count.isSome = true → applied = true) := by
  refine ((apply_succeeds within created fits addable count).and
    (apply_ends id tally count world)).mono ?_
  rintro _ after ⟨⟨applied, rfl, some⟩, wrote⟩
  refine ⟨?_, applied, rfl, some⟩
  cases applied with
  | false =>
    obtain ⟨rfl, empty, _⟩ := wrote
    exact .of_isEmpty empty after
  | true =>
    obtain ⟨campaigns, rfl, sums⟩ := wrote
    intro before here
    obtain ⟨old, found, rfl⟩ := Option.map_eq_some_iff.mp here
    obtain ⟨new, found', gains⟩ := campaign?_of_sums sums found
    rw [Campaign.Sums, if_pos (campaign?_id found)] at gains
    obtain ⟨sms, email, smsOk, emailOk, rfl⟩ := gains
    refine ⟨_, congrArg (Option.map Campaign.sums) found', fun channel => ?_⟩
    cases channel with
    | sms => exact smsOk
    | email => exact emailOk

/-! ## A pass on doubles -/

namespace Pass

/-- The rows that have been logged are recorded in the tally, and its costs remain bounded. -/
def Recounted (campaign : Campaign Binary64) (before after : World σ Binary64)
    (tally total : Tally) : Prop :=
  total.IsWithin ∧ ∃ rows, after.store.messages = before.store.messages ++ rows ∧
    Tally.Recounts campaign tally rows total

theorem Recounted.refl {campaign : Campaign Binary64} {before after : World σ Binary64}
    {tally : Tally} (within : tally.IsWithin)
    (same : after.store.messages = before.store.messages) :
    Recounted campaign before after tally tally :=
  ⟨within, [], same.trans (List.append_nil _).symm, .none tally⟩

theorem Recounted.trans {campaign : Campaign Binary64} {before middle after : World σ Binary64}
    {tally counted total : Tally} (first : Recounted campaign before middle tally counted)
    (second : Recounted campaign middle after counted total) :
    Recounted campaign before after tally total := by
  obtain ⟨_, rows, logged, recounts⟩ := first
  obtain ⟨within, more, logged', recounts'⟩ := second
  exact ⟨within, rows ++ more, by rw [logged', logged, List.append_assoc], recounts.append recounts'⟩

variable {engine : Engine σ Binary64}

/-- The messages to a target are all recorded, because no cost is too large for the tally. -/
theorem serve_recounted (asks : KeepsLog engine) (campaign : Campaign Binary64) (isTest : Bool)
    (target : TargetRecord) (channels : List Channel) {tally : Tally} (within : tally.IsWithin)
    (delivered : Bool) (world : World σ Binary64) :
    Leads (serve engine campaign isTest target channels tally delivered) world fun result after =>
      Recounted campaign world after tally result.1 := by
  induction channels generalizing tally delivered world with
  | nil => exact .refl within rfl
  | cons channel rest ih =>
    rw [serve, leads_bind]
    refine ((Send.message_ends asks campaign isTest target channel world).and
      (Send.message_within engine campaign isTest target channel world)).mono ?_
    rintro (failure | sent) middle ⟨logs, charged⟩
    · have same : middle.store.messages = world.store.messages := logs
      cases failure <;> exact .refl within same
    · obtain ⟨row, records, logged⟩ := logs
      obtain rfl := records.channel_eq
      have charged : ∀ cost, sent = .charged cost → cost.IsWithin 310 :=
        fun cost same => charged cost (congrArg Except.ok same)
      obtain ⟨counted, counts, within⟩ := within.exists_record row.channel charged
      dsimp only
      rw [counts]
      refine (ih within _ middle).mono fun result after recounted => ?_
      exact .trans ⟨within, [row], logged, .row records counts (.none counted)⟩ recounted

theorem visit_recounted (asks : KeepsLog engine) (campaign : Campaign Binary64) (isTest : Bool)
    (excluded : List Int) {progress : Progress} (within : progress.tally.IsWithin)
    (target : TargetRecord) (world : World σ Binary64) :
    Leads (visit engine campaign isTest excluded progress target) world fun visited after =>
      Recounted campaign world after progress.tally visited.found.tally := by
  rw [visit, leads_bind]
  refine leads_of_still (Lifecycle.status?_moves campaign.id) fun status => ?_
  cases status with
  | error failure => exact .refl within rfl
  | ok status =>
    dsimp only
    split
    · exact .refl within rfl
    · split
      · exact .refl within rfl
      · split
        · exact .refl within rfl
        · rw [leads_bind]
          refine (serve_recounted asks campaign isTest target _ within false world).mono ?_
          rintro ⟨tally, served⟩ middle recounted
          refine (afterTarget_leads campaign target _ served middle).mono ?_
          rintro visit after ⟨goesOn, same, _⟩
          have counted : visit.found.tally = tally := by cases goesOn <;> rfl
          rw [counted]
          exact recounted.trans (.refl recounted.1 same)

/-- A walk records all that it logs. -/
theorem walk_recounted (asks : KeepsLog engine) (setting : Setting Binary64)
    (world : World σ Binary64) :
    Leads (setting.walk engine) world fun walked after =>
      Recounted setting.campaign world after .empty walked.1.tally := by
  refine Audience.walk_leads (I := fun (progress : Progress) after =>
    Recounted setting.campaign world after .empty progress.tally) ?_ (.refl Tally.isWithin_empty rfl)
  intro progress target middle _ recounted
  exact (visit_recounted asks setting.campaign setting.isTest setting.excluded recounted.1 target
    middle).mono fun _ _ more => recounted.trans more

section Conclude

variable {id : Int} {campaign : Campaign Binary64} {world : World σ Binary64}

/-- A ledger that has been added up stays so. -/
theorem close_sumsStay (isTest : Bool) {ledger : Ledger} (applied : ledger.applied = true)
    (ended : Except Failure (Option CampaignStatus × Option Moment)) :
    Moves (SumsStay id : World σ Binary64 → World σ Binary64 → Prop)
      (close campaign isTest ledger ended).run := by
  refine close_moves_unless (Lifecycle.markFailed_moves (sumsStay_allows id) _)
    (fun _ _ _ found => found) (fun unapplied => ?_) ended
  rw [applied] at unapplied
  cases unapplied

/-- The record of a failure adds the tally that has not been added before. -/
theorem close_sumsGain (own : campaign.id = id) {isTest : Bool} {progress : Progress}
    (within : progress.tally.IsWithin) (created : world.store.created = true)
    (fits : Cell.fits id = true) (addable : world.store.Addable id) (count : Cell)
    (failure : Failure) :
    Ends (close campaign isTest ⟨progress, count, false⟩ (.error failure)) world
      fun _ after => SumsGain id progress.tally world after := by
  rw [close_unapplied, own]
  refine (Lifecycle.apply_sumsGain within created fits addable _).mono ?_
  rintro _ middle ⟨adds, applied, rfl, _⟩
  exact ((close_sumsStay isTest rfl _).leads middle).mono fun _ _ stay => adds.on stay

/-- What follows a walk adds its tally once, however the pass ends. -/
theorem conclude_sumsGain (prepares : Moves (SumsStay id) engine.beforeFinish.run)
    {setting : Setting Binary64} (own : setting.campaign.id = id)
    {walked : Progress × Option Failure} (within : walked.1.tally.IsWithin)
    (created : world.store.created = true) (fits : Cell.fits id = true)
    (addable : world.store.Addable id) :
    Ends (setting.conclude engine walked) world fun _ after =>
      SumsGain id walked.1.tally world after := by
  rcases walked with ⟨progress, _ | failure⟩
  · rw [Setting.conclude, ends_bind, ends_attempt, own]
    refine (Lifecycle.apply_sumsGain within created fits addable _).mono ?_
    rintro _ middle ⟨adds, applied, rfl, some⟩
    obtain rfl := some rfl
    dsimp only
    rw [ends_bind, ends_attempt]
    refine ((finish_moves (sumsStay_allows id) prepares setting.campaign
      progress.stopped).leads middle).mono fun ended later finished => ?_
    exact ((close_sumsStay setting.isTest rfl ended).leads later).mono fun _ _ closed =>
      (adds.on finished).on closed
  · exact close_sumsGain own within created fits addable setting.count failure

end Conclude

/-- What a tally of some rows adds to the sums of a campaign, the campaign gains. -/
theorem gains_of_sumsGain {id : Int} {old : Campaign Binary64} {rows : List (Message Binary64)}
    {tally : Tally} {before after : World σ Binary64}
    (here : before.store.sums? id = some old.sums) (recounts : Tally.Recounts old .empty rows tally)
    (gain : SumsGain id tally before after) :
    ∃ new, after.store.campaign? id = some new ∧ old.Gains rows new := by
  obtain ⟨added, there, adds⟩ := gain old.sums here
  obtain ⟨new, found, rfl⟩ := Option.map_eq_some_iff.mp there
  exact ⟨new, found, tally, recounts, adds⟩

/-- The sums of a campaign gain what has become of the messages that a pass of it logs, whatever its
providers do and whatever else happens to stored campaigns while it runs, and however it ends. -/
theorem execute_gains {id : Int} (attended : engine.Attended id) {world : World σ Binary64}
    {old : Campaign Binary64} (found : world.store.campaign? id = some old)
    (addable : world.store.Addable id) :
    Ends (execute engine id) world fun _ after => ∃ new rows,
      after.store.campaign? id = some new ∧ after.store.messages = world.store.messages ++ rows ∧
        old.Gains rows new := by
  have settles := attended.settles (f := fun store => store.messages) fun _ _ => rfl
  have prepares : Moves (SumsStay id) engine.beforeFinish.run := fun world =>
    (attended.beforeFinish world).sumsStay id
  have claimed : ∀ {other : Campaign Binary64} {campaign : Campaign Binary64} {middle},
      Claims id world other campaign middle → other = old ∧ middle.store.sums? id = some old.sums ∧
        middle.store.Ready id := by
    intro other campaign middle claims
    obtain rfl := Option.some.inj (claims.found.symm.trans found)
    refine ⟨rfl, ?_, claims.ready ⟨claims.created, addable⟩⟩
    rw [Store.sums?, claims.found_claimed, claims.campaign_eq]
    rfl
  refine execute_ends (fun failure => ?_) ?_ ?_
  · obtain ⟨new, here, gains⟩ := gains_of_sumsGain (congrArg (Option.map Campaign.sums) found)
      (.none .empty) (.of_isEmpty rfl world)
    exact ⟨new, [], here, (List.append_nil _).symm, gains⟩
  · intro other campaign isTest count failure middle claims
    obtain ⟨rfl, here, ready⟩ := claimed claims
    refine ((close_sumsGain claims.id_eq Tally.isWithin_empty ready.created claims.fits
      ready.addable count failure).and ((close_moves settles campaign isTest _ _).leads
        middle)).mono ?_
    rintro _ after ⟨gain, log⟩
    obtain ⟨new, there, gains⟩ := gains_of_sumsGain here (.none .empty) gain
    exact ⟨new, [], there, (log.trans claims.messages_eq).trans (List.append_nil _).symm, gains⟩
  · intro setting middle walks
    obtain ⟨other, claims, _⟩ := walks.claims
    obtain ⟨rfl, here, ready⟩ := claimed claims
    have walked : Moves (SumsStay id) (setting.walk engine) := walk_moves {
      message := Send.message_moves
        (fun request world => (attended.exchange request world).sumsStay id)
        (fun _ _ _ found => found) fun _ _ _ found => found
      cooldown := record_moves fun _ _ _ found => found } setting
    refine ((walk_recounted (fun request world => (attended.exchange request world).agrees
      fun _ _ => rfl) setting middle).and ((walked.leads middle).and ((walk_ready
        attended.keepsReady setting).leads middle))).mono ?_
    rintro walked later ⟨⟨within, rows, logged, recounts⟩, stay, keeps⟩
    have ready := keeps ready
    refine ((conclude_sumsGain prepares claims.id_eq within ready.created claims.fits
      ready.addable).and ((conclude_moves settles setting walked).leads later)).mono ?_
    rintro result after ⟨gain, log⟩
    have recounts : Tally.Recounts other .empty rows walked.1.tally := recounts.imp fun records => by
      rw [claims.campaign_eq] at records
      exact ⟨records.tenant_eq, records.campaign_eq, records.target_eq, records.targetId_eq,
        records.channel_eq, records.status_eq, records.cost_eq⟩
    obtain ⟨new, there, gains⟩ := gains_of_sumsGain (stay _ here) recounts gain
    exact ⟨new, rows, there, (log.trans logged).trans (by rw [claims.messages_eq]), gains⟩

end Pass

end Herald
