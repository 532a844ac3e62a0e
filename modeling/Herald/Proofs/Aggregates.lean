import Herald.Proofs.Conservation
import Herald.Proofs.Pricing

/-! # Aggregates and the log

A pass counts its messages beside the store and adds them to the aggregates of its campaign in one
write: behind its walk, or if it has failed on its way to that write, when its failure is recorded.
Because the tenant pays for every message, a tally never outgrows what a decimal counts exactly, so
the write takes place once in every pass that has begun, whatever else fails. Between passes the
aggregates of a campaign are therefore those of its messages.
-/

namespace Herald

variable {σ α : Type}

/-- The aggregates of a campaign on each channel. -/
def Campaign.sums (campaign : Campaign α) : Channel → Aggregates α
  | .sms => campaign.sms
  | .email => campaign.email

/-- The aggregates of the campaign of an id. -/
def Store.sums? (store : Store α) (id : Int) : Option (Channel → Aggregates α) :=
  (store.campaign? id).map Campaign.sums

theorem sums?_standing (store : Store α) : store.standing.sums? = store.sums? := by
  funext id
  simp only [Store.sums?, Store.campaign?, Store.standing, List.find?_map, Option.map_map]
  rfl

/-- A tally has been added to the aggregates of a campaign, and the others are the same. -/
def Added (id : Int) (tally : Tally) (before after : Store Exact) : Prop :=
  ∀ other, Option.Rel (fun old new =>
    if other = id then ∀ channel, (tally.channel channel).addTo (old channel) = .ok (new channel)
    else new = old) (before.sums? other) (after.sums? other)

namespace Added

variable {id : Int} {tally : Tally} {before middle after : Store Exact}

/-- Adding nothing changes nothing. -/
theorem of_isEmpty (same : after.sums? = before.sums?) (empty : tally.isEmpty = true) :
    Added id tally before after := by
  simp only [Tally.isEmpty, Bool.and_eq_true] at empty
  intro other
  rw [same]
  cases before.sums? other with
  | none => exact .none
  | some sums =>
    refine .some ?_
    split
    · intro channel
      cases channel with
      | sms => exact ChannelTally.addTo_of_isEmpty empty.1 _
      | email => exact ChannelTally.addTo_of_isEmpty empty.2 _
    · rfl

theorem behind (added : Added id tally middle after) (same : middle.sums? = before.sums?) :
    Added id tally before after := fun other => same ▸ added other

theorem ahead (added : Added id tally before middle) (same : after.sums? = middle.sums?) :
    Added id tally before after := fun other => same ▸ added other

/-- One write of a tally is one addition. -/
theorem of_sums {count : Option Cell} {now : Moment} {campaigns : List (Campaign Exact)}
    (sums : List.Forall₂ (Campaign.Sums id tally count now) before.campaigns campaigns) :
    Added id tally before { before with campaigns } := by
  intro other
  have related := campaign?_sums sums other
  unfold Store.sums?
  cases found : before.campaign? other with
  | none =>
    rw [found] at related
    generalize ({ before with campaigns }.campaign? other) = new at related ⊢
    cases related
    exact .none
  | some old =>
    have id_eq := campaign?_id found
    rw [found] at related
    generalize ({ before with campaigns }.campaign? other) = new at related ⊢
    cases related with
    | some sums =>
      rw [Campaign.Sums, id_eq] at sums
      refine .some ?_
      split at sums
      · rename_i same
        obtain ⟨sms, email, smsOk, emailOk, rfl⟩ := sums
        rw [if_pos same]
        intro channel
        cases channel with
        | sms => exact smsOk
        | email => exact emailOk
      · rename_i differs
        rw [if_neg differs, sums]

end Added

/-! ## The write -/

/-- A tally whose costs are numbers. -/
def Tally.IsFinite (tally : Tally) : Prop := ∀ channel, (tally.channel channel).cost.isFinite = true

theorem Tally.Counts.isFinite {tally : Tally} {rows : List (Message Exact)}
    (counts : tally.Counts rows) : tally.IsFinite := by
  intro channel
  obtain ⟨cents, is, _⟩ := (counts channel).cost_eq
  exact is.finite

namespace Lifecycle

/-- A tally whose costs are numbers can be written. -/
theorem applyIn_of_isFinite {id : Int} {tally : Tally} (finite : tally.IsFinite)
    (fits : Cell.fits id = true) (count : Option Cell) (now : Moment) (store : Store Exact) :
    ∃ written, applyIn id tally count now store = .ok written := by
  have adds : ∀ channel (aggregates : Aggregates Exact), ∃ added,
      (tally.channel channel).addTo aggregates = .ok added := by
    intro channel aggregates
    obtain ⟨added, ok, _⟩ := ChannelTally.addTo_ok (finite channel) aggregates
    exact ⟨added, ok⟩
  refine exists_ok_bind ⟨id, if_pos fits⟩ fun fit =>
    exists_ok_bind (exists_ok_mapM fun campaign _ => ?_) fun _ => ⟨_, rfl⟩
  split
  · exact exists_ok_bind (adds .sms campaign.sms) fun _ =>
      exists_ok_bind (adds .email campaign.email) fun _ => ⟨_, rfl⟩
  · exact ⟨_, rfl⟩

theorem apply_added {id : Int} {tally : Tally} {world : World σ Exact}
    (created : world.store.created = true) (fits : Cell.fits id = true) (finite : tally.IsFinite)
    (count : Option Cell) :
    Ends (apply id tally count) world fun result after =>
      (∃ applied, result = .ok applied ∧ (count.isSome = true → applied = true)) ∧
        Added id tally world.store after.store := by
  unfold apply
  by_cases nothing : (tally.isEmpty && count.isNone) = true
  · rw [if_pos nothing]
    rw [Bool.and_eq_true, Option.isNone_iff_eq_none] at nothing
    refine ⟨⟨false, rfl, fun some => ?_⟩, .of_isEmpty rfl nothing.1⟩
    rw [nothing.2] at some
    exact some
  · obtain ⟨⟨_, after⟩, wrote⟩ := applyIn_of_isFinite finite fits count world.now world.store
    obtain ⟨campaigns, rfl, sums⟩ := applyIn_ok wrote
    rw [if_neg nothing, ends_bind, ends_clock]
    dsimp only
    rw [ends_bind, ends_commit created, wrote]
    exact ⟨⟨true, rfl, fun _ => rfl⟩, .of_sums sums⟩

end Lifecycle

/-! ## A pass -/

namespace OperatedEngine

variable (engine : OperatedEngine σ Exact)

theorem sums_allows : Lifecycle.Allows (Agree fun world : World σ Exact => world.store.sums?) :=
  fun world id condition _ keeps => view_of_standing sums?_standing
    (standing_updateCampaign world.store id condition keeps)

/-- A walk leaves the aggregates alone. -/
theorem reaches_sums : engine.toEngine.Reaches (Agree fun world => world.store.sums?) where
  message := Send.message_moves (engine.exchange_moves sums?_standing) (fun _ _ => rfl)
    (fun _ _ => rfl)
  cooldown := record_moves fun _ _ => rfl

end OperatedEngine

namespace Pass

variable {engine : OperatedEngine σ Exact} {world : World σ Exact}

/-- A claim leaves the aggregates alone. -/
theorem Claims.sums?_eq {id : Int} {middle : World σ Exact} {old campaign : Campaign Exact}
    (claims : Claims id world old campaign middle) : middle.store.sums? = world.store.sums? := by
  rw [claims.middle_eq]
  exact OperatedEngine.sums_allows world _ _ _ fun _ => rfl

/-- The record of a failure leaves the aggregates alone, if the tally has been added before. -/
theorem close_sums (campaign : Campaign Exact) (isTest : Bool) {ledger : Ledger}
    (applied : ledger.applied = true)
    (ended : Except Failure (Option CampaignStatus × Option Moment)) :
    Moves (Agree fun world : World σ Exact => world.store.sums?)
      (close campaign isTest ledger ended).run := by
  refine close_moves_unless (Lifecycle.markFailed_moves OperatedEngine.sums_allows _)
    (fun _ _ => rfl) (fun unapplied => ?_) ended
  rw [applied] at unapplied
  cases unapplied

/-- A pass that is closed tells what it has counted. -/
theorem close_tells (campaign : Campaign Exact) (isTest : Bool) (ledger : Ledger)
    (ended : Except Failure (Option CampaignStatus × Option Moment)) (world : World σ Exact) :
    Ends (close campaign isTest ledger ended) world fun result _ => ∀ told, result = .ok told →
      told.campaign = campaign.id ∧ told.tally = ledger.progress.tally := by
  refine (close_returns campaign isTest ledger ended world).mono ?_
  rintro result after returns told same
  obtain ⟨status, nextRunAt, reason, _, rfl⟩ := returns told same
  exact ⟨rfl, rfl⟩

/-- The record of a failure adds the tally that has not been added before. -/
theorem close_added {campaign : Campaign Exact} {isTest : Bool} {progress : Progress}
    (created : world.store.created = true) (fits : Cell.fits campaign.id = true)
    (finite : progress.tally.IsFinite) (count : Cell) (failure : Failure) :
    Ends (close campaign isTest ⟨progress, count, false⟩ (.error failure)) world
      fun _ after => Added campaign.id progress.tally world.store after.store := by
  rw [close_unapplied]
  refine (Lifecycle.apply_added created fits finite _).mono ?_
  rintro result middle ⟨⟨applied, rfl, _⟩, added⟩
  exact ((close_sums campaign isTest rfl _).leads middle).mono fun _ _ same => added.ahead same

/-- What follows a walk adds its tally, and tells about it. -/
theorem conclude_added {setting : Setting Exact} {walked : Progress × Option Failure}
    (created : world.store.created = true) (fits : Cell.fits setting.campaign.id = true)
    (finite : walked.1.tally.IsFinite) :
    Ends (setting.conclude engine.toEngine walked) world fun result after =>
      Added setting.campaign.id walked.1.tally world.store after.store ∧
        ∀ told, result = .ok told →
          told.campaign = setting.campaign.id ∧ told.tally = walked.1.tally := by
  rcases walked with ⟨progress, _ | failure⟩
  · rw [Setting.conclude, ends_bind, ends_attempt]
    refine (Lifecycle.apply_added created fits finite _).mono ?_
    rintro result middle ⟨⟨applied, rfl, some⟩, added⟩
    obtain rfl := some rfl
    dsimp only
    rw [ends_bind, ends_attempt]
    have prepares : Moves (Agree fun world => world.store.sums?) engine.beforeFinish.run :=
      fun world => view_of_standing sums?_standing (engine.beforeFinish_operated world).standing
    refine ((finish_moves OperatedEngine.sums_allows prepares setting.campaign
      progress.stopped).leads middle).mono ?_
    intro ended later finished
    refine (((close_sums setting.campaign setting.isTest rfl ended).leads later).and
      (close_tells setting.campaign setting.isTest _ ended later)).mono ?_
    rintro result after ⟨closed, tells⟩
    exact ⟨(added.ahead finished).ahead closed, tells⟩
  · exact (close_added created fits finite setting.count failure).and
      (close_tells setting.campaign setting.isTest _ _ world)

/-- Messages that are all paid for by one tenant cost what it spends. -/
theorem spent_eq {rows : List (Message Exact)} {tenant : String}
    (own : ∀ row ∈ rows, row.tenant = tenant) : spent rows tenant = (Totals.of rows).cost := by
  have all : rows.filter (fun row => row.tenant == tenant) = rows :=
    List.filter_eq_self.mpr fun row member => beq_iff_eq.mpr (own row member)
  rw [spent, all]
  rfl

/-- What holds of a walk between two visits: the rows since its beginning are those of its campaign,
and all of them are counted. -/
structure Counted (campaign : Campaign Exact) (before after : Store Exact) (tally : Tally) : Prop where
  grown : Grown 0 before after
  cents : after.InCents
  logged : ∃ rows, after.messages = before.messages ++ rows ∧
    (∀ row ∈ rows, row.campaign = campaign.id ∧ row.tenant = campaign.tenant) ∧ tally.Counts rows

/-- A visit counts its rows, because its tenant can pay for them. -/
theorem Counted.visit {campaign : Campaign Exact} {before middle after : Store Exact}
    {excluded : List Int} {target : TargetRecord} {progress : Progress}
    {rows : List (Message Exact)} {delivered : Bool} {visit : Visit Progress}
    (counted : Counted campaign before middle progress.tally)
    (few : balanceOf before campaign.tenant < Decimal.countable / 100)
    (visits : Visits campaign excluded target progress rows delivered visit)
    (logged : after.messages = middle.messages ++ rows) (grown : Grown 0 middle after)
    (cents : after.InCents) : Counted campaign before after visit.found.tally := by
  obtain ⟨old, oldLogged, own, counts⟩ := counted.logged
  have grown : Grown 0 before after := by simpa only [add_zero] using counted.grown.trans grown
  have logged : after.messages = before.messages ++ (old ++ rows) := by
    rw [logged, oldLogged, List.append_assoc]
  have own : ∀ row ∈ old ++ rows, row.campaign = campaign.id ∧ row.tenant = campaign.tenant := by
    intro row member
    rcases List.mem_append.mp member with there | new
    · exact own row there
    · exact ⟨(visits.rows_about.2 row new).1, visits.tenant_eq row new⟩
  refine ⟨grown, cents, old ++ rows, logged, own, visits.counts counts ?_ ?_⟩
  · exact fun row member => cents row (logged ▸ List.mem_append_right _ member)
  · have paid := grown.spent_le logged campaign.tenant
    rw [spent_eq fun row member => (own row member).2] at paid
    exact lt_of_le_of_lt paid few

/-- A walk counts all rows that it leaves. -/
theorem walk_counted (prices : engine.settings.InCents) (setting : Setting Exact)
    (sound : Sound world.store) (cents : world.store.InCents)
    (few : balanceOf world.store setting.campaign.tenant < Decimal.countable / 100) :
    Leads (setting.walk engine.toEngine) world fun walked after =>
      Counted setting.campaign world.store after.store walked.1.tally := by
  refine Audience.walk_leads
    (I := fun (progress : Progress) after =>
      Counted setting.campaign world.store after.store progress.tally)
    ?_ ⟨.refl sound, cents, [], (List.append_nil _).symm, List.forall_mem_nil _, Tally.counts_empty⟩
  intro progress target middle _ counted
  have funded := visit_moves engine.respects_funded.toReaches setting.campaign setting.isTest
    setting.excluded progress target
  have priced := visit_moves (engine.respects_inCents prices).toReaches setting.campaign
    setting.isTest setting.excluded progress target
  refine ((visit_leads (keepsLedgers engine) setting.campaign setting.isTest setting.excluded
    progress target middle).and ((funded.leads middle).and (priced.leads middle))).mono ?_
  rintro visit after ⟨⟨rows, delivered, visits, logged, _⟩, grown, cents⟩
  exact counted.visit few visits logged (grown counted.grown.sound) (cents counted.cents)

/-- What a pass adds to the log it adds to the aggregates of its campaign, exactly once, and it is
what it tells about itself. -/
theorem execute_added (prices : engine.settings.InCents) (id : Int) (sound : Sound world.store)
    (cents : world.store.InCents)
    (few : ∀ tenant, balanceOf world.store tenant < Decimal.countable / 100) :
    Ends (execute engine.toEngine id) world fun result after => ∃ rows tally,
      after.store.messages = world.store.messages ++ rows ∧ (∀ row ∈ rows, row.campaign = id) ∧
        tally.Counts rows ∧ Added id tally world.store after.store ∧ ∀ told, result = .ok told →
          (world.store.campaign? id).isSome ∧ told.campaign = id ∧ told.tally = tally := by
  refine execute_ends ?_ ?_ ?_
  · exact fun failure => ⟨[], .empty, (List.append_nil _).symm, List.forall_mem_nil _,
      Tally.counts_empty, .of_isEmpty rfl rfl, fun _ same => by cases same⟩
  · intro old campaign isTest count failure middle claims
    obtain rfl := claims.id_eq
    refine ((close_added claims.created_after claims.fits Tally.counts_empty.isFinite count
      failure).and (((close_moves (settles_log engine) campaign isTest _ _).leads middle).and
        (close_tells campaign isTest _ _ middle))).mono ?_
    rintro result after ⟨added, logged, tells⟩
    exact ⟨[], .empty, (logged.trans claims.messages_eq).trans (List.append_nil _).symm,
      List.forall_mem_nil _, Tally.counts_empty, added.behind claims.sums?_eq,
      fun told same => ⟨Option.isSome_of_eq_some claims.found, tells told same⟩⟩
  · intro setting middle walks
    obtain ⟨old, claims, _⟩ := walks.claims
    obtain rfl := claims.id_eq
    have messages := claims.messages_eq
    have books : SameBooks world.store middle.store := by rw [claims.middle_eq]; exact ⟨rfl, rfl, rfl⟩
    have sound := (books.grown sound).sound
    have few : balanceOf middle.store setting.campaign.tenant < Decimal.countable / 100 := by
      simpa only [balanceOf, BalanceLedger.row?, books.balances] using few setting.campaign.tenant
    have walked : Moves (Agree fun world => world.store.sums?) (setting.walk engine.toEngine) :=
      walk_moves engine.reaches_sums setting
    refine ((walk_counted prices setting sound (cents.of_messages messages) few).and
      (walked.leads middle)).mono ?_
    rintro walked later ⟨counted, still⟩
    obtain ⟨rows, logged, own, counts⟩ := counted.logged
    refine ((conclude_added counted.grown.sound.created claims.fits counts.isFinite).and
      ((conclude_moves (settles_log engine) setting walked).leads later)).mono ?_
    rintro result after ⟨⟨added, tells⟩, log⟩
    exact ⟨rows, walked.1.tally, (log.trans logged).trans (by rw [messages]),
      fun row member => (own row member).1, counts, (added.behind still).behind claims.sums?_eq,
      fun told same => ⟨Option.isSome_of_eq_some claims.found, tells told same⟩⟩

end Pass

end Herald
