import Herald.Proofs.Alike
import Herald.Proofs.Beginning

/-! # Passes that run alike

`Parallel` lists what two engines have to do alike for their passes of a campaign: each of the few
accesses to the tables that passes are made of, and whatever surrounds the engines.
`Parallel.execute` puts whole passes together from them, so two passes are compared one access at a
time.
-/

namespace Herald

variable {σ τ α β γ : Type} {R : World σ α → World τ α → Prop}

namespace Pass

/-- A campaign that may begin has been found. -/
theorem runnable_found (id : Int) (world : World σ α) :
    Ends (runnable id) world fun result _ => ∀ campaign, result = .ok campaign →
      world.store.campaign? id = some campaign := by
  rw [runnable, ends_bind]
  cases created : world.store.created with
  | false =>
    simp only [Lifecycle.get?, Run.consult, ends_bind, ends_get, created, Bool.false_eq_true,
      ↓reduceIte, ends_throw]
    exact fun campaign same => by cases same
  | true =>
    rw [get?_ends created]
    cases fits : Cell.fitted id with
    | error failure => exact fun campaign same => by cases same
    | ok fit =>
      cases fitted_eq fits
      dsimp only [Except.map]
      cases found : world.store.campaign? id with
      | none => exact fun campaign same => by cases same
      | some old =>
        dsimp only
        split
        · rintro campaign same
          cases same
          rfl
        · exact fun campaign same => by cases same

end Pass

/-! ## Engines side by side -/

variable [Amount α]

/-- Rows of the log that differ in nothing but the id that each of them gets. -/
def Message.Numbered (campaign : Campaign α) (message : Int → Except Failure (Message α)) : Prop :=
  ∃ made : Except Failure (Message α), (∀ row, made = .ok row → row.campaign = campaign.id) ∧
    ∀ id, message id = made.map fun row => { row with id }

/-- A start that has come to a campaign has come to one's own, and to an audience of its tenant. -/
def Pass.Start.IsOwn (own : Campaign α → Prop) : Start α → Prop
  | .refused _ => True
  | .unprepared campaign _ _ _ => own campaign
  | .walks setting => own setting.campaign ∧ setting.audience.tenant = setting.campaign.tenant

/-- What two engines have to do alike so that their passes of a campaign run alike. -/
structure Parallel (left : Engine σ α) (right : Engine τ α) (id : Int) (own : Campaign α → Prop)
    (R : World σ α → World τ α → Prop) : Prop where
  settings_eq : right.settings = left.settings
  provider_eq : ∀ channel, right.provider channel = left.provider channel
  own_id : ∀ campaign, own campaign → campaign.id = id
  own_terms : ∀ campaign other : Campaign α, other.terms = campaign.terms → own campaign → own other
  finds : ∀ world other, R world other →
    ∀ campaign, world.store.campaign? id = some campaign → own campaign
  clock : Alike R (Run.clock : Run σ α Moment).run (Run.clock : Run τ α Moment).run
  get? : Alike R (Lifecycle.get? id none : Run σ α _).run (Lifecycle.get? id none : Run τ α _).run
  status? : Alike R (Lifecycle.status? id : Run σ α _).run (Lifecycle.status? id : Run τ α _).run
  transition : ∀ allowed change, KeepsTerms change →
    Alike R (Lifecycle.transition id allowed change : Run σ α _).run
      (Lifecycle.transition id allowed change : Run τ α _).run
  adds : ∀ tally count now,
    Alike R (Run.commit (Lifecycle.applyIn id tally count now) : Run σ α _).run
      (Run.commit (Lifecycle.applyIn id tally count now) : Run τ α _).run
  definitions : ∀ campaign, own campaign →
    Alike R (Run.query fun store => Registry.rows store campaign.tenant campaign.target :
        Run σ α _).run
      (Run.query fun store => Registry.rows store campaign.tenant campaign.target : Run τ α _).run
  cooled : ∀ campaign start, own campaign →
    Alike R (Run.consult fun store => do
        return CooldownLedger.activeIn store (← Cell.fitted campaign.id) campaign.target start :
          Run σ α _).run
      (Run.consult fun store => do
        return CooldownLedger.activeIn store (← Cell.fitted campaign.id) campaign.target start :
          Run τ α _).run
  messaged : ∀ campaign, own campaign →
    Alike R (Run.query fun store => Lifecycle.messagedIn store campaign.id campaign.target :
        Run σ α _).run
      (Run.query fun store => Lifecycle.messagedIn store campaign.id campaign.target :
        Run τ α _).run
  walk : ∀ {β : Type} (campaign : Campaign α) (audience : Audience) (limit : Option Int)
    (visit : β → TargetRecord → Steady σ α (Visit β))
    (visit' : β → TargetRecord → Steady τ α (Visit β)) (start : β), own campaign →
      audience.tenant = campaign.tenant →
        (∀ found target, Alike R (visit found target) (visit' found target)) →
          Alike R (audience.walk left.batchSize limit visit start)
            (audience.walk right.batchSize limit visit' start)
  log : ∀ campaign message, own campaign → Message.Numbered campaign message →
    Alike R (Run.commit (Send.logIn message) : Run σ α _).run
      (Run.commit (Send.logIn message) : Run τ α _).run
  pays : ∀ campaign amount, own campaign →
    Alike R (Run.commit (BalanceLedger.deductIn campaign.tenant amount) : Run σ α _).run
      (Run.commit (BalanceLedger.deductIn campaign.tenant amount) : Run τ α _).run
  repays : ∀ campaign amount, own campaign →
    Alike R (Run.commit (BalanceLedger.addIn campaign.tenant amount) : Run σ α _).run
      (Run.commit (BalanceLedger.addIn campaign.tenant amount) : Run τ α _).run
  cooldown : ∀ campaign kind target, own campaign →
    Alike R (CooldownLedger.record campaign.id kind target campaign.tenant : Run σ α _).run
      (CooldownLedger.record campaign.id kind target campaign.tenant : Run τ α _).run
  journal : ∀ line, Alike R (Run.record line : Run σ α _).run (Run.record line : Run τ α _).run
  exchange : ∀ request, Alike R (left.exchange request).run (right.exchange request).run
  beforeFinish : Alike R left.beforeFinish.run right.beforeFinish.run

namespace Parallel

variable {left : Engine σ α} {right : Engine τ α} {id : Int} {own : Campaign α → Prop}
  (parallel : Parallel left right id own R)

include parallel

/-! ### The tables -/

section Own

variable {campaign : Campaign α} (owned : own campaign)

include owned

theorem compile : Alike R (Pass.compile campaign : Run σ α _).run
    (Pass.compile campaign : Run τ α _).run :=
  alike_run_bind (alike_run_bind alike_pure? fun _ =>
    alike_run_bind (parallel.definitions campaign owned) fun _ => alike_pure?) fun _ => alike_pure?

theorem excluded : Alike R (Pass.excludedTargets campaign : Run σ α _).run
    (Pass.excludedTargets campaign : Run τ α _).run := by
  have cooled : Alike R (CooldownLedger.activeTargets campaign.id campaign.target
      campaign.cooldownDays none : Run σ α _).run (CooldownLedger.activeTargets campaign.id
        campaign.target campaign.cooldownDays none : Run τ α _).run := by
    refine alike_run_bind alike_pure? fun positive => ?_
    split
    · exact alike_run_pure
    · exact alike_run_bind parallel.clock fun _ => alike_run_bind alike_pure? fun start =>
        parallel.cooled campaign start owned
  refine alike_run_bind cooled fun ids => ?_
  split
  · exact alike_run_pure
  · exact alike_run_bind (parallel.messaged campaign owned) fun _ => alike_run_pure

theorem deduct (amount : Decimal) :
    Alike R (BalanceLedger.deduct campaign.tenant amount : Run σ α Bool).run
      (BalanceLedger.deduct campaign.tenant amount : Run τ α Bool).run := by
  refine alike_run_bind alike_pure? fun moved => ?_
  split
  · exact alike_run_pure
  · exact parallel.pays campaign moved owned

theorem refund (amount : Decimal) :
    Alike R (BalanceLedger.refund campaign.tenant amount : Run σ α Unit).run
      (BalanceLedger.refund campaign.tenant amount : Run τ α Unit).run := by
  refine alike_run_bind alike_pure? fun moved => ?_
  split
  · exact alike_run_pure
  · exact parallel.repays campaign moved owned

end Own

theorem apply (tally : Tally) (count : Option Cell) :
    Alike R (Lifecycle.apply id tally count : Run σ α _).run
      (Lifecycle.apply id tally count : Run τ α _).run := by
  unfold Lifecycle.apply
  split
  · exact alike_run_pure
  · exact alike_run_bind parallel.clock fun _ => alike_run_bind (parallel.adds _ _ _) fun _ =>
      alike_run_pure

/-! ### One message -/

theorem deliver (channel : Channel) (outgoing : Outgoing) :
    Alike R (Send.deliver left channel outgoing).run (Send.deliver right channel outgoing).run := by
  unfold Send.deliver
  rw [parallel.settings_eq, parallel.provider_eq]
  split
  · exact alike_run_pure
  · exact alike_run_bind alike_pure? fun request =>
      alike_run_bind (parallel.exchange request) fun _ => alike_pure?

theorem settle {campaign : Campaign α} (owned : own campaign) (cost : Decimal) (channel : Channel)
    (outgoing : Outgoing) :
    Alike R (Send.settle left campaign.tenant cost channel outgoing).run
      (Send.settle right campaign.tenant cost channel outgoing).run := by
  refine alike_run_bind (alike_attempt (parallel.deliver channel outgoing)) fun result => ?_
  cases result with
  | ok outcome => exact alike_run_pure
  | error failure =>
    dsimp only
    split
    · exact alike_run_pure
    · exact alike_run_pure
    · exact alike_run_bind (parallel.refund owned cost) fun _ => alike_throw

omit [Amount α] parallel in
theorem numbered_ok {campaign : Campaign α} {row : Int → Message α}
    (about : ∀ id, (row id).campaign = campaign.id) (numbered : ∀ id, row id = { row 0 with id }) :
    Message.Numbered campaign fun id => .ok (row id) := by
  refine ⟨.ok (row 0), fun made same => ?_, fun id => congrArg Except.ok (numbered id)⟩
  cases same
  exact about 0

omit parallel in
theorem numbered_sent {campaign : Campaign α} {row : Moment → Int → Message α} {now : Moment}
    (about : ∀ id, (row now id).campaign = campaign.id)
    (numbered : ∀ id, row now id = { row now 0 with id }) (cost : Decimal) (outcome : Outcome) :
    Message.Numbered campaign fun id => Send.sentRow (row now id) cost outcome now := by
  refine ⟨Send.sentRow (row now 0) cost outcome now, fun sent made => ?_, fun id => ?_⟩
  · obtain ⟨stored, _, made⟩ := ok_of_bind made
    obtain ⟨reported, _, made⟩ := ok_of_bind made
    cases made
    exact about 0
  · dsimp only
    rw [numbered id]
    unfold Send.sentRow
    cases (BalanceLedger.stored cost : Except Failure α) with
    | error failure => rfl
    | ok stored =>
      cases (outcome.cost.mapM BalanceLedger.stored : Except Failure (Option α)) with
      | error failure => rfl
      | ok reported => rfl

theorem sendLive {campaign : Campaign α} (owned : own campaign) (channel : Channel)
    (cost : Decimal) (outgoing : Outgoing) {row : Moment → Int → Message α}
    (about : ∀ now id, (row now id).campaign = campaign.id)
    (numbered : ∀ now id, row now id = { row now 0 with id }) :
    Alike R (Send.sendLive left campaign.tenant channel cost outgoing row).run
      (Send.sendLive right campaign.tenant channel cost outgoing row).run := by
  refine alike_run_bind (parallel.deduct owned cost) fun paid => ?_
  cases paid with
  | false => exact alike_throw_bind
  | true =>
    refine alike_run_bind (parallel.settle owned cost channel outgoing) fun outcome => ?_
    split
    · exact alike_run_bind parallel.clock fun now => alike_run_bind (parallel.log campaign _ owned
        (numbered_sent (about now) (numbered now) cost outcome)) fun _ => alike_run_pure
    · refine alike_run_bind (parallel.refund owned cost) fun _ =>
        alike_run_bind parallel.clock fun now => alike_run_bind (parallel.log campaign _ owned
          (numbered_ok (about now) fun id => ?_)) fun _ => alike_run_pure
      rw [numbered now id]

theorem message {campaign : Campaign α} (owned : own campaign) (isTest : Bool)
    (target : TargetRecord) (channel : Channel) :
    Alike R (Send.message left campaign isTest target channel).run
      (Send.message right campaign isTest target channel).run := by
  unfold Send.message
  rw [parallel.settings_eq]
  refine alike_run_bind alike_pure? fun composed => ?_
  dsimp only
  split
  · exact alike_run_bind parallel.clock fun now => alike_run_bind (parallel.log campaign _ owned
      (numbered_ok (fun _ => rfl) fun _ => rfl)) fun _ => alike_run_pure
  · exact parallel.sendLive owned channel composed.cost _ (fun now id => rfl) fun now id => rfl

/-! ### One target -/

section Own

variable {campaign : Campaign α} (owned : own campaign)

include owned

theorem ownStatus? : Alike R (Lifecycle.status? campaign.id : Run σ α (Option CampaignStatus)).run
    (Lifecycle.status? campaign.id : Run τ α _).run := by
  rw [parallel.own_id campaign owned]
  exact parallel.status?

theorem ownTransition (allowed : CampaignStatus → Bool) {change : Campaign α → Campaign α}
    (keeps : KeepsTerms change) :
    Alike R (Lifecycle.transition campaign.id allowed change : Run σ α _).run
      (Lifecycle.transition campaign.id allowed change : Run τ α _).run := by
  rw [parallel.own_id campaign owned]
  exact parallel.transition allowed change keeps

theorem ownApply (tally : Tally) (count : Option Cell) :
    Alike R (Lifecycle.apply campaign.id tally count : Run σ α _).run
      (Lifecycle.apply campaign.id tally count : Run τ α _).run := by
  rw [parallel.own_id campaign owned]
  exact parallel.apply tally count

theorem serve (isTest : Bool) (target : TargetRecord) (channels : List Channel) (tally : Tally)
    (delivered : Bool) :
    Alike R (Pass.serve left campaign isTest target channels tally delivered)
      (Pass.serve right campaign isTest target channels tally delivered) := by
  induction channels generalizing tally delivered with
  | nil => exact alike_pure
  | cons channel rest ih =>
    rw [Pass.serve, Pass.serve]
    refine alike_bind (parallel.message owned isTest target channel) fun result => ?_
    cases result with
    | error failure => cases failure <;> exact alike_pure
    | ok sent =>
      dsimp only
      cases tally.record channel sent with
      | error failure => exact alike_pure
      | ok tally => exact ih tally _

theorem recordIf (delivered : Bool) (target : TargetRecord) :
    Alike R (Pass.recordIf delivered campaign target : Run σ α Unit).run
      (Pass.recordIf delivered campaign target : Run τ α Unit).run := by
  cases delivered with
  | false => exact alike_run_pure
  | true => exact parallel.cooldown campaign _ _ owned

theorem afterTarget (target : TargetRecord) (progress : Progress) (served : Pass.Served) :
    Alike R (Pass.afterTarget campaign target progress served : Steady σ α _)
      (Pass.afterTarget campaign target progress served : Steady τ α _) := by
  cases served with
  | aborted failure => exact alike_pure
  | fully delivered =>
    refine alike_bind (parallel.recordIf owned delivered target) fun result => ?_
    cases result <;> exact alike_pure
  | outOfBalance delivered =>
    refine alike_bind (parallel.recordIf owned delivered target) fun result => ?_
    cases result <;> exact alike_pure

theorem visit (isTest : Bool) (excluded : List Int) (progress : Progress)
    (target : TargetRecord) :
    Alike R (Pass.visit left campaign isTest excluded progress target)
      (Pass.visit right campaign isTest excluded progress target) := by
  refine alike_bind (parallel.ownStatus? owned) fun result => ?_
  cases result with
  | error failure => exact alike_pure
  | ok status =>
    dsimp only
    split
    · exact alike_pure
    · split
      · exact alike_pure
      · split
        · exact alike_pure
        · exact alike_bind (parallel.serve owned isTest target _ _ false) fun served =>
            parallel.afterTarget owned target _ served.2

/-! ### The start of a pass -/

theorem targetCount {audience : Audience} (tenant : audience.tenant = campaign.tenant) :
    Alike R (Pass.targetCount left campaign audience).run
      (Pass.targetCount right campaign audience).run := by
  unfold Pass.targetCount
  split
  · exact alike_run_pure
  · refine alike_run_bind (alike_run_bind (alike_lift (parallel.walk campaign audience none _ _ 0
      owned tenant fun found target => alike_pure)) fun walked => ?_) fun _ => alike_run_pure
    obtain ⟨count, _ | failure⟩ := walked
    · exact alike_run_pure
    · exact alike_throw

theorem prepare (predicate : Predicate) :
    Alike R (Pass.prepare left campaign predicate).run
      (Pass.prepare right campaign predicate).run := by
  have audience : Alike R (audienceOf campaign.tenant predicate : Run σ α Audience).run
      (audienceOf campaign.tenant predicate : Run τ α Audience).run :=
    alike_run_bind parallel.clock fun _ => alike_run_pure
  refine alike_run_bind_of audience (fun world other related => ?_) fun audience tenant =>
    alike_run_bind (parallel.targetCount owned tenant) fun _ => alike_run_pure
  rw [audienceOf, ends_bind, ends_clock]
  rintro audience same
  cases same
  rfl

theorem excludedAndLimit (count : Cell) :
    Alike R (Pass.excludedAndLimit campaign count : Run σ α _).run
      (Pass.excludedAndLimit campaign count : Run τ α _).run :=
  alike_run_bind (parallel.excluded owned) fun _ =>
    alike_run_bind alike_pure? fun _ => alike_run_pure

end Own

theorem runnable : Alike R (Pass.runnable id : Run σ α (Campaign α)).run
    (Pass.runnable id : Run τ α (Campaign α)).run := by
  refine alike_run_bind parallel.get? fun found => ?_
  cases found with
  | none => exact alike_throw
  | some campaign =>
    dsimp only
    split
    · exact alike_run_pure
    · exact alike_throw

theorem begin : Alike R (Lifecycle.begin id : Run σ α (Option (Campaign α))).run
    (Lifecycle.begin id : Run τ α (Option (Campaign α))).run := by
  refine alike_run_bind parallel.clock fun now =>
    alike_run_bind (parallel.transition _ _ fun _ => rfl) fun claimed => ?_
  split
  · exact parallel.get?
  · exact alike_run_bind parallel.status? fun _ => alike_throw

theorem claim : Alike R (Pass.claim id : Run σ α (Campaign α × Predicate)).run
    (Pass.claim id : Run τ α (Campaign α × Predicate)).run := by
  refine alike_run_bind_of parallel.runnable (fun world other related => ?_) fun campaign owned =>
    alike_run_bind (parallel.compile owned) fun predicate =>
      alike_run_bind parallel.begin fun _ => alike_run_pure
  refine (Pass.runnable_found id world).mono fun result after found campaign same => ?_
  exact parallel.finds world other related campaign (found campaign same)

theorem start : Alike R (Pass.start left id) (Pass.start right id) := by
  have known : ∀ world other, R world other → Ends (Pass.claim id) world fun result _ =>
      ∀ claimed, result = .ok claimed → own claimed.1 := by
    intro world other related
    refine (Pass.claim_ends id world).mono ?_
    rintro result middle claims ⟨campaign, predicate⟩ rfl
    obtain ⟨old, claims, _⟩ := claims
    rw [claims.campaign_eq]
    exact parallel.own_terms old _ rfl (parallel.finds world other related old claims.found)
  refine alike_bind_of parallel.claim known fun claimed owned => ?_
  rcases claimed with failure | ⟨campaign, predicate⟩
  · exact alike_pure
  · have owned : own campaign := owned _ rfl
    dsimp only
    rw [parallel.settings_eq]
    refine alike_bind (parallel.prepare owned predicate) fun prepared => ?_
    rcases prepared with failure | ⟨audience, count⟩
    · exact alike_pure
    · refine alike_bind (parallel.excludedAndLimit owned count) fun bounds => ?_
      rcases bounds with failure | ⟨excluded, limit⟩ <;> exact alike_pure

theorem walks {setting : Pass.Setting α} (owned : own setting.campaign)
    (tenant : setting.audience.tenant = setting.campaign.tenant) :
    Alike R (setting.walk left) (setting.walk right) :=
  parallel.walk setting.campaign setting.audience setting.limit _ _ Progress.start owned tenant
    (parallel.visit owned setting.isTest setting.excluded)

/-! ### The end of a pass -/

section Own

variable {campaign : Campaign α} (owned : own campaign)

include owned

theorem finish (stopped : Option Stopped) :
    Alike R (Pass.finish left campaign stopped).run (Pass.finish right campaign stopped).run := by
  refine alike_run_bind parallel.clock fun now => ?_
  rw [parallel.settings_eq]
  have leave : ∀ leaving : Except Failure Pass.Leaving,
      Alike R (do
        let leaving ← Run.pure? leaving
        left.beforeFinish
        if ← Lifecycle.finish campaign.id leaving.status (Pass.left leaving now) then
          return (some leaving.status, leaving.nextRunAt)
        else return (← Lifecycle.status? campaign.id, none) : Run σ α _).run (do
        let leaving ← Run.pure? leaving
        right.beforeFinish
        if ← Lifecycle.finish campaign.id leaving.status (Pass.left leaving now) then
          return (some leaving.status, leaving.nextRunAt)
        else return (← Lifecycle.status? campaign.id, none) : Run τ α _).run := by
    refine fun leaving => alike_run_bind alike_pure? fun leaving =>
      alike_run_bind parallel.beforeFinish fun _ =>
        alike_run_bind (parallel.ownTransition owned _ fun _ => rfl) fun left => ?_
    split
    · exact alike_run_pure
    · exact alike_run_bind (parallel.ownStatus? owned) fun _ => alike_run_pure
  split
  · exact alike_run_bind (parallel.ownStatus? owned) fun _ => alike_run_pure
  · exact leave _

omit owned in
theorem journals (result : PassResult) :
    Alike R (Pass.journal campaign result : Run σ α Unit).run
      (Pass.journal campaign result : Run τ α Unit).run :=
  alike_run_bind alike_pure? fun line => parallel.journal line

theorem fail (isTest : Bool) (ledger : Pass.Ledger) (failure : Failure) :
    Alike R (Pass.fail campaign isTest ledger failure : Run σ α Unit).run
      (Pass.fail campaign isTest ledger failure : Run τ α Unit).run := by
  have failed : ∀ reason, Alike R (Lifecycle.markFailed campaign.id reason : Run σ α Bool).run
      (Lifecycle.markFailed campaign.id reason : Run τ α Bool).run := fun reason =>
    alike_run_bind parallel.clock fun _ => parallel.ownTransition owned _ fun _ => rfl
  have close : Alike R (do
        let _ ← Lifecycle.markFailed campaign.id failure.reason
        let status ← Lifecycle.status? campaign.id
        Pass.journal campaign (Pass.result campaign isTest ledger status none none) :
          Run σ α Unit).run (do
        let _ ← Lifecycle.markFailed campaign.id failure.reason
        let status ← Lifecycle.status? campaign.id
        Pass.journal campaign (Pass.result campaign isTest ledger status none none) :
          Run τ α Unit).run :=
    alike_run_bind (failed _) fun _ => alike_run_bind (parallel.ownStatus? owned) fun _ =>
      parallel.journals _
  unfold Pass.fail
  split
  · exact alike_run_bind (parallel.ownApply owned _ _) fun _ => close
  · exact close

theorem close (isTest : Bool) (ledger : Pass.Ledger)
    (ended : Except Failure (Option CampaignStatus × Option Moment)) :
    Alike R (Pass.close campaign isTest ledger ended : Run σ α PassResult).run
      (Pass.close campaign isTest ledger ended : Run τ α PassResult).run := by
  rcases ended with failure | ⟨status, nextRunAt⟩
  · exact alike_run_bind (parallel.fail owned isTest ledger failure) fun _ => alike_throw
  · exact alike_run_bind (parallel.journals _) fun _ => alike_run_pure

end Own

theorem conclude {setting : Pass.Setting α} (owned : own setting.campaign)
    (walked : Progress × Option Failure) :
    Alike R (setting.conclude left walked).run (setting.conclude right walked).run := by
  rcases walked with ⟨progress, _ | failure⟩
  · refine alike_run_bind (alike_attempt (parallel.ownApply owned _ _)) fun applied => ?_
    cases applied with
    | error failure => exact parallel.close owned _ _ _
    | ok applied =>
      exact alike_run_bind (alike_attempt (parallel.finish owned _)) fun ended =>
        parallel.close owned _ _ ended
  · exact parallel.close owned _ _ _

/-- Passes run alike if all that they are made of does. -/
theorem execute : Alike R (Pass.execute left id).run (Pass.execute right id).run := by
  have known : ∀ world other, R world other → Leads (Pass.start left id) world fun begun _ =>
      begun.IsOwn own := by
    intro world other related
    have claimed : ∀ {old campaign : Campaign α} {middle : World σ α},
        Pass.Claims id world old campaign middle → own campaign := by
      intro old campaign middle claims
      rw [claims.campaign_eq]
      exact parallel.own_terms old _ rfl (parallel.finds world other related old claims.found)
    refine (Pass.start_leads left id world).mono ?_
    rintro (failure | ⟨campaign, isTest, count, failure⟩ | setting) middle begins
    · trivial
    · obtain ⟨old, claims⟩ := begins
      exact claimed claims
    · obtain ⟨old, claims, predicate, _, audience⟩ := begins.claims
      refine ⟨claimed claims, ?_⟩
      rw [audience, claims.campaign_eq]
      rfl
  rw [Pass.execute_eq, Pass.execute_eq]
  refine alike_bind_of parallel.start known fun begun own => ?_
  rcases begun with failure | ⟨campaign, isTest, count, failure⟩ | setting
  · exact alike_throw
  · exact parallel.close own _ _ _
  · exact alike_run_bind (alike_lift (parallel.walks own.1 own.2)) fun walked =>
      parallel.conclude own.1 walked

end Parallel

end Herald
