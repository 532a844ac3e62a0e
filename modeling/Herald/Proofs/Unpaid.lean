import Herald.Proofs.Beginning
import Herald.Proofs.Monotone
import Herald.Proofs.Isolation

/-! # Tenants that cannot pay

A message is paid for before its provider is asked, so a tenant whose balance covers neither one
segment of a text message nor an e-mail sends nothing that costs anything. What costs nothing is
left: a text that is empty once it has been filled in and cleaned takes no segment, its cost is
zero, and a zero amount is paid without a look at the balance. `Spares` says that nothing else has
been sent.
-/

namespace Herald

variable {σ α : Type} [Amount α]

/-- Amounts that are compared like the decimals they are stored for: what covers an amount covers
every smaller one. -/
class Amount.IsOrdered (α : Type) [Amount α] : Prop where
  covers_of_atMost : ∀ {less more : Decimal} {balance large : α}, less.AtMost more →
    Amount.ofDecimal? more = some large → Amount.covers balance large = true →
      ∃ small, Amount.ofDecimal? less = some small ∧ Amount.covers balance small = true

instance : Amount.IsOrdered Exact where
  covers_of_atMost := by
    intro less more balance large le stored covers
    cases le with
    | infinite => cases stored
    | finite le =>
      cases stored
      refine ⟨_, rfl, (Exact.covers_iff _ _).mpr ?_⟩
      refine le_trans ?_ ((Exact.covers_iff _ _).mp covers)
      simpa only [Decimal.ratio, Bool.false_eq_true, ↓reduceIte, one_mul] using le

/-- A double that is not below zero is kept as it is. -/
theorem Binary64.IsUnsigned.column?_eq {double : Binary64} (unsigned : double.IsUnsigned) :
    double.column? = some double := by
  rcases unsigned with ⟨units, rfl⟩ | rfl
  · by_cases none : units = 0
    · simp only [column?, none, ↓reduceIte]
      rfl
    · simp only [column?, none, ↓reduceIte]
  · rfl

instance : Amount.IsOrdered Binary64 where
  covers_of_atMost := by
    intro less more balance large le stored covers
    have infinite : (Binary64.infinite false).IsUnsigned := .inr rfl
    cases le with
    | infinite => exact ⟨large, stored, covers⟩
    | @finite coefficient larger low high le =>
      have unsigned := Binary64.isUnsigned_ofScientific coefficient low
      have above := (Binary64.isUnsigned_ofScientific larger high).column?_eq
      have same : large = Binary64.ofScientific false larger high :=
        Option.some.inj (stored.symm.trans above)
      subst same
      exact ⟨_, unsigned.column?_eq,
        Binary64.le_trans_of_isUnsigned unsigned (Binary64.ofScientific_mono le) covers⟩

/-! ## Balances that do not cover an amount -/

/-- A tenant has a balance that covers an amount. -/
def CanPay (balances : List (Balance α)) (tenant : String) (amount : Decimal) : Prop :=
  ∃ row ∈ balances, row.tenant = tenant ∧
    ∃ cost, Amount.ofDecimal? amount = some cost ∧ Amount.covers row.amount cost = true

theorem CanPay.of_atMost [Amount.IsOrdered α] {balances : List (Balance α)} {tenant : String}
    {less more : Decimal} (pays : CanPay balances tenant more) (le : less.AtMost more) :
    CanPay balances tenant less := by
  obtain ⟨row, member, own, large, stored, covers⟩ := pays
  exact ⟨row, member, own, Amount.IsOrdered.covers_of_atMost le stored covers⟩

namespace BalanceLedger

omit [Amount α] in
theorem change_none {tenant : String} {condition : α → Bool} {update : α → Option α}
    {rows : List (Balance α)}
    (none : ∀ row ∈ rows, row.tenant = tenant → condition row.amount = false) :
    change tenant condition update rows = .ok (0, rows) := by
  induction rows with
  | nil => rfl
  | cons row rest ih =>
    rw [List.forall_mem_cons] at none
    rw [change, ih none.2]
    by_cases own : row.tenant = tenant
    · simp [bind, Except.bind, pure, Except.pure, none.1 own]
    · simp [bind, Except.bind, pure, Except.pure, own]

/-- An amount that is not covered is not deducted, and nothing changes. -/
theorem deduct_unpaid {tenant : String} {amount : Decimal} {world : World σ α}
    (unable : ¬ CanPay world.store.balances tenant amount) (some : ¬ amount.isZero = true) :
    Ends (deduct tenant amount) world fun result after => after = world ∧ result ≠ .ok true := by
  rw [deduct, ends_bind, ends_pure?]
  cases moves : movable amount with
  | error failure => exact ⟨rfl, by rintro ⟨⟩⟩
  | ok moved =>
    obtain ⟨rfl, -⟩ := movable_ok moves
    dsimp only
    rw [if_neg some]
    refine ends_commit_of (fun failure => ⟨rfl, by rintro ⟨⟩⟩) fun paid store wrote => ?_
    obtain ⟨cost, stored, wrote⟩ := ok_of_bind wrote
    have kept : Amount.ofDecimal? moved = Option.some cost := by
      unfold BalanceLedger.stored at stored
      split at stored
      · rename_i stores
        exact stores.trans (congrArg Option.some (Except.ok.inj stored))
      · cases stored
    have none : ∀ row ∈ world.store.balances, row.tenant = tenant →
        Amount.covers row.amount cost = false := by
      intro row member own
      by_contra covers
      exact unable ⟨row, member, own, cost, kept, Bool.not_eq_false _ ▸ covers⟩
    rw [change_none none] at wrote
    cases wrote
    exact ⟨rfl, by rintro ⟨⟩⟩

section Free

variable {R : World σ α → World σ α → Prop} [IsPreorder (World σ α) R] {tenant : String}
  {amount : Decimal} (free : amount.isZero = true)

include free

/-- Nothing is deducted for what is free. -/
theorem deduct_free_moves : Moves R (deduct tenant amount : Run σ α Bool).run := by
  refine moves_pure?_bind fun moved moves => ?_
  rw [(movable_ok moves).1, if_pos free]
  exact moves_run_pure

/-- Nothing is given back for what was free. -/
theorem refund_free_moves : Moves R (refund tenant amount : Run σ α Unit).run := by
  refine moves_pure?_bind fun moved moves => ?_
  rw [(movable_ok moves).1, if_pos free]
  exact moves_run_pure

end Free

end BalanceLedger

/-! ## What costs nothing -/

/-- A row of a text message that takes no segments. -/
def Message.IsVoid (settings : Settings) (row : Message α) : Prop :=
  row.channel = .sms ∧ row.segments = some 0 ∧ Sms.segments settings.sizes row.content = 0

/-- What a request asks to be sent. -/
def Request.content : Request → Value
  | .sms _ _ _ _ content _ _ => content
  | .email _ _ _ _ _ html => html

/-- A request for a text that takes no segments. -/
def Request.IsVoid (settings : Settings) (request : Request) : Prop :=
  ∃ content, request.content = .text content ∧ Sms.segments settings.sizes content = 0

/-- A provider is asked to send what it has been handed. -/
theorem Provider.content_of_request {provider : Provider} {outgoing : Outgoing} {request : Request}
    (asked : provider.request outgoing = .ok request) : request.content = outgoing.content := by
  unfold Provider.request at asked
  split at asked
  · split at asked
    · cases asked
    · cases asked
      rfl
  · split at asked
    · cases asked
    · cases asked
      rfl
  · cases asked

/-- Nothing has been paid, and only text messages without segments have been asked for and
logged. -/
structure Spares (settings : Settings) (before after : World (σ × List (Option Request)) α) :
    Prop where
  balances_eq : after.store.balances = before.store.balances
  logged : ∃ rows, after.store.messages = before.store.messages ++ rows ∧
    ∀ row ∈ rows, row.IsVoid settings
  asked : ∃ notes, after.outside.2 = before.outside.2 ++ notes ∧
    ∀ request, some request ∈ notes → request.IsVoid settings

omit [Amount α] in
/-- Nothing of what a pass pays, logs or asks for has changed. -/
theorem Spares.of_same {settings : Settings} {before after : World (σ × List (Option Request)) α}
    (balances_eq : after.store.balances = before.store.balances)
    (messages_eq : after.store.messages = before.store.messages)
    (notes_eq : after.outside.2 = before.outside.2) : Spares settings before after :=
  ⟨balances_eq, ⟨[], messages_eq.trans (List.append_nil _).symm, List.forall_mem_nil _⟩,
    [], notes_eq.trans (List.append_nil _).symm, nofun⟩

instance (settings : Settings) :
    IsPreorder (World (σ × List (Option Request)) α) (Spares settings) where
  refl _ := .of_same rfl rfl rfl
  trans _ _ _ first second := by
    obtain ⟨rows, logged, void⟩ := first.logged
    obtain ⟨more, again, alike⟩ := second.logged
    obtain ⟨notes, asked, idle⟩ := first.asked
    obtain ⟨others, further, likewise⟩ := second.asked
    refine ⟨second.balances_eq.trans first.balances_eq, ⟨rows ++ more, ?_, ?_⟩,
      notes ++ others, ?_, ?_⟩
    · rw [again, logged, List.append_assoc]
    · exact List.forall_mem_append.mpr ⟨void, alike⟩
    · rw [further, asked, List.append_assoc]
    · intro request member
      rcases List.mem_append.mp member with member | member
      · exact idle request member
      · exact likewise request member

/-- A tenant that can pay neither for one segment nor for an e-mail. -/
structure IsBroke (settings : Settings) (unit : Decimal) (tenant : String)
    (balances : List (Balance α)) : Prop where
  segment : ¬ CanPay balances tenant unit
  mail : ¬ CanPay balances tenant settings.emailPrice

/-- As long as the tenant cannot pay, nothing is sent that costs anything. -/
def Starves (settings : Settings) (unit : Decimal) (tenant : String)
    (before after : World (σ × List (Option Request)) α) : Prop :=
  IsBroke settings unit tenant before.store.balances → Spares settings before after

instance (settings : Settings) (unit : Decimal) (tenant : String) :
    IsPreorder (World (σ × List (Option Request)) α) (Starves settings unit tenant) where
  refl world _ := refl world
  trans _ _ _ first second broke := by
    have spared := first broke
    exact IsTrans.trans _ _ _ spared (second (spared.balances_eq ▸ broke))

section Messages

variable (engine : OperatedEngine σ α) {settings : Settings} {unit : Decimal} {tenant : String}

omit [Amount α] in
/-- What surrounds an engine changes neither balances nor the log, and its call is noted. -/
theorem exchange_spares {request : Request} (void : request.IsVoid settings) :
    Moves (Spares settings) (engine.asking.exchange request).run := by
  intro world
  have standing := (engine.exchange_operated request world.plain).standing
  refine ⟨view_of_standing (fun _ => rfl) standing,
    ⟨[], (view_of_standing (fun _ => rfl) standing).trans (List.append_nil _).symm,
      List.forall_mem_nil _⟩, [some request], rfl, ?_⟩
  intro other member
  cases List.mem_singleton.mp member
  exact void

omit [Amount α] in
theorem beforeFinish_spares : Moves (Spares settings) engine.asking.beforeFinish.run := by
  intro world
  have standing := (engine.beforeFinish_operated world.plain).standing
  refine ⟨view_of_standing (fun _ => rfl) standing,
    ⟨[], (view_of_standing (fun _ => rfl) standing).trans (List.append_nil _).symm,
      List.forall_mem_nil _⟩, [none], rfl, ?_⟩
  intro other member
  cases List.mem_singleton.mp member

/-- A text message without segments costs nothing, so it is sent whatever the balance is. -/
theorem sendLive_void {cost : Decimal} (free : cost.isZero = true) {channel : Channel}
    {outgoing : Outgoing} {content : String} (handed : outgoing.content = .text content)
    (void : Sms.segments engine.settings.sizes content = 0) {blank : Moment → Int → Message α}
    (row : ∀ now id, (blank now id).IsVoid engine.settings) :
    Moves (Spares engine.settings)
      (Send.sendLive engine.asking tenant channel cost outgoing blank).run := by
  have logs : ∀ (world : World (σ × List (Option Request)) α) (row : Message α),
      row.IsVoid engine.settings → Spares engine.settings world
        { world with store := { world.store with messages := world.store.messages ++ [row] } } :=
    fun world row void => ⟨rfl, ⟨[row], rfl, List.forall_mem_singleton.mpr void⟩, [],
      (List.append_nil _).symm, nofun⟩
  refine Send.sendLive_moves_of (BalanceLedger.deduct_free_moves free)
    (BalanceLedger.refund_free_moves free) (fun request asked => ?_) ?_
    fun world now id _ => logs world _ (row now id)
  · exact exchange_spares engine ⟨content, (Provider.content_of_request asked).trans handed, void⟩
  · intro world now id outcome sent made
    obtain ⟨stored, _, made⟩ := ok_of_bind made
    obtain ⟨reported, _, made⟩ := ok_of_bind made
    cases made
    exact logs world _ (row now id)

/-- A message that is not covered is not sent. -/
theorem sendLive_unpaid {engine : Engine σ α} {cost : Decimal} {world : World σ α}
    (unable : ¬ CanPay world.store.balances tenant cost) (some : ¬ cost.isZero = true)
    (channel : Channel) (outgoing : Outgoing) (blank : Moment → Int → Message α) :
    Ends (Send.sendLive engine tenant channel cost outgoing blank) world
      fun _ after => after = world := by
  rw [Send.sendLive, ends_bind]
  refine (BalanceLedger.deduct_unpaid unable some).mono ?_
  rintro (failure | paid) after ⟨rfl, unpaid⟩
  · rfl
  · cases paid with
    | true => exact absurd rfl unpaid
    | false => exact rfl

/-- A text message costs what its segments cost. -/
theorem Composed.ofSms_ok {settings : Settings} {content : Content} {attributes : Fields}
    {composed : Composed} (ok : ofSms settings content attributes = .ok composed) :
    composed.segments = some (Sms.segments settings.sizes composed.content) ∧
      Sms.segmentCost (Sms.segments settings.sizes composed.content) settings.smsPrice =
        .ok composed.cost := by
  unfold ofSms at ok
  dsimp only at ok
  split at ok
  · rename_i cost costs
    cases ok
    exact ⟨rfl, costs⟩
  · cases ok

/-- No segments cost nothing. -/
theorem Sms.isZero_of_segmentCost {price cost : Decimal} (positive : price.IsPositive)
    (ok : segmentCost 0 price = .ok cost) : cost.isZero = true := by
  rcases positive.cases with ⟨coefficient, exponent, _, rfl⟩ | rfl
  · simp only [segmentCost, Decimal.mul, Decimal.ofInt, Decimal.rounded, Int.natAbs_zero, zero_mul,
      ↓reduceIte] at ok
    cases ok
    rfl
  · cases ok

/-- What a tenant is charged with, if it is charged at all. -/
structure Charges (settings : Settings) (unit : Decimal) : Prop where
  sms : settings.smsPrice.IsPositive
  single : Sms.segmentCost 1 settings.smsPrice = .ok unit
  unit : unit.IsPositive
  email : settings.emailPrice.IsPositive

/-- A message of a tenant that cannot pay is not sent, unless it is a text without segments. -/
theorem message_starves [Amount.IsOrdered α] (charges : Charges engine.settings unit)
    {campaign : Campaign α} (own : campaign.tenant = tenant) (target : TargetRecord)
    (channel : Channel) :
    Moves (Starves engine.settings unit tenant)
      (Send.message engine.asking campaign false target channel).run := by
  have refused : ∀ (cost : Decimal) outgoing blank, (∀ balances : List (Balance α),
      IsBroke engine.settings unit tenant balances → ¬ CanPay balances tenant cost) →
        ¬ cost.isZero = true → Moves (Starves engine.settings unit tenant)
          (Send.sendLive engine.asking tenant channel cost outgoing blank).run := by
    intro cost outgoing blank unable some world broke
    have still : Ends (Send.sendLive engine.asking tenant channel cost outgoing blank) world
        fun _ after => after = world := sendLive_unpaid (unable _ broke) some channel outgoing blank
    rw [show _ = world from still]
    exact refl world
  subst own
  refine moves_pure?_bind fun composed composes => ?_
  dsimp only
  rw [if_neg Bool.false_ne_true]
  cases channel with
  | email =>
    cases composes
    exact refused _ _ _ (fun _ broke => broke.mail)
      (charges.email.atMost_self.not_isZero charges.email)
  | sms =>
    obtain ⟨segments, costs⟩ := Composed.ofSms_ok composes
    rcases Nat.eq_zero_or_pos (Sms.segments engine.settings.sizes composed.content) with none | some
    · have void : composed.segments = .some 0 := segments.trans (congrArg Option.some none)
      have free := Sms.isZero_of_segmentCost charges.sms (none ▸ costs :)
      exact (sendLive_void engine free rfl none fun _ _ => ⟨rfl, void, none⟩).mono
        fun _ _ spared _ => spared
    · have least := Sms.segmentCost_atMost some charges.sms charges.single costs
      exact refused _ _ _ (fun _ broke pays => broke.segment (pays.of_atMost least))
        (least.not_isZero charges.unit)

/-- Around its messages a pass neither pays, logs nor asks. -/
theorem settles_spares : engine.asking.Settles (Spares engine.settings) where
  life _ _ _ _ _ := .of_same rfl rfl rfl
  tally _ _ _ := Lifecycle.apply_moves fun _ _ _ => .of_same rfl rfl rfl
  beforeFinish := beforeFinish_spares engine
  journal _ _ := .of_same rfl rfl rfl

end Messages

namespace Pass

variable {unit : Decimal}

/-- A walk for a tenant that cannot pay sends texts without segments at most. -/
theorem walk_starves [Amount.IsOrdered α] (engine : OperatedEngine σ α)
    (charges : Charges engine.settings unit) {setting : Setting α} (live : setting.isTest = false) :
    Moves (Starves engine.settings unit setting.campaign.tenant) (setting.walk engine.asking) := by
  refine Audience.walk_moves fun progress target => visit_moves_of ?_ (fun channel => ?_) _ progress
  · exact record_moves (fun _ _ _ => .of_same rfl rfl rfl) _ _ _ _
  · rw [live]
    exact message_starves engine charges rfl target channel

/-- A pass of a tenant whose balance covers neither one segment nor an e-mail pays for nothing, and
asks for nothing and logs nothing but text messages that take no segments, whatever its campaign,
its templates and its targets are. -/
theorem broke_tenant_sends_void_texts [Amount.IsOrdered α] (engine : OperatedEngine σ α) (id : Int)
    {world : World σ α} {old : Campaign α} (charges : Charges engine.settings unit)
    (found : world.store.campaign? id = some old) (live : isMock engine.settings old = false)
    (broke : IsBroke engine.settings unit old.tenant world.store.balances) :
    Ends (execute engine.toEngine id) world fun _ after =>
      after.store.balances = world.store.balances ∧
      (∃ rows, after.store.messages = world.store.messages ++ rows ∧
        ∀ row ∈ rows, row.IsVoid engine.settings) ∧
      ∀ request, some request ∈ requests engine.toEngine id world →
        request.IsVoid engine.settings := by
  have spared : Ends (execute engine.asking id) (world.beside []) fun _ after =>
      Spares engine.settings (world.beside []) after := by
    rw [execute_iff]
    have finds : Leads (start engine.asking id) (world.beside []) fun begun _ =>
        ∀ setting, begun = .walks setting → setting.campaign = claimed world.now old ∧
          setting.isTest = isMock engine.settings old := start_finds found
    refine (((start_moves (settles_spares engine).life engine.asking id).leads
      (world.beside [])).and finds).mono ?_
    rintro (failure | ⟨campaign, isTest, count, failure⟩ | setting) middle ⟨spared, finds⟩
    · exact spared
    · refine ((close_moves (settles_spares engine) campaign _ _ _).leads middle).mono
        fun _ _ closed => IsTrans.trans _ _ _ spared closed
    · obtain ⟨campaign, isTest⟩ := finds setting rfl
      rw [Start.goOn, ends_bind, ends_lift]
      refine ((walk_starves engine charges (isTest.trans live)).leads middle).mono
        fun walked later starves => ?_
      have tenant : setting.campaign.tenant = old.tenant := campaign ▸ rfl
      have walked : Spares engine.settings (world.beside []) later := by
        refine IsTrans.trans _ _ _ spared (starves ?_)
        rw [tenant, spared.balances_eq]
        exact broke
      refine ((conclude_moves (settles_spares engine) setting _).leads later).mono
        fun _ _ concluded => IsTrans.trans _ _ _ walked concluded
  let holds (notes : List (Option Request)) (_ : Except Failure PassResult) (after : World σ α) :
      Prop :=
    after.store.balances = world.store.balances ∧
    (∃ rows, after.store.messages = world.store.messages ++ rows ∧
      ∀ row ∈ rows, row.IsVoid engine.settings) ∧
    ∀ request, some request ∈ notes → request.IsVoid engine.settings
  suffices recorded : Ends (execute engine.asking id) (world.beside [])
    fun result after => holds after.outside.2 result after.plain from ends_of_recorded recorded
  refine spared.mono fun _ after spared => ?_
  obtain ⟨notes, asked, void⟩ := spared.asked
  refine ⟨spared.balances_eq, spared.logged, fun request member => void request ?_⟩
  rw [asked] at member
  exact member

end Pass

/-! ## A tenant without a balance -/

namespace Sample

/-- A campaign whose text is a tab, which is taken out before a text is sent. -/
def tabbed : Draft :=
  { draft with reach := .sms, content := ⟨some "S", some "\t", none, none, none, none⟩ }

/-- The campaign has been made and has a customer, and nothing has been credited. -/
def unpaid : List (Event Unit α) :=
  [.create "t" tabbed, .upsert ⟨"t", .customer, []⟩ [] .null [("phone", .text "123")]]

theorem charges : Charges settings (Settings.cents 4) where
  sms := rfl
  single := rfl
  unit := rfl
  email := rfl

end Sample

theorem sample_broke_tenant :
    let world : World Unit Binary64 := Sample.world Sample.unpaid
    Ends (Pass.execute Sample.engine.toEngine 1) world fun _ after =>
      after.store.balances = world.store.balances ∧
      (∃ rows, after.store.messages = world.store.messages ++ rows ∧
        ∀ row ∈ rows, row.IsVoid Sample.settings) ∧
      ∀ request, some request ∈ Pass.requests Sample.engine.toEngine 1 world →
        request.IsVoid Sample.settings := by
  intro world
  have facts : (world.store.campaign? 1).any (fun old => !Pass.isMock Sample.settings old) = true ∧
      world.store.balances.isEmpty = true := by decide +kernel
  obtain ⟨old, found, live⟩ := (Option.any_eq_true _ _).mp facts.1
  have unable : ∀ amount, ¬ CanPay world.store.balances old.tenant amount := by
    rintro amount ⟨row, member, -⟩
    rw [List.isEmpty_iff.mp facts.2] at member
    cases member
  exact Pass.broke_tenant_sends_void_texts Sample.engine 1 Sample.charges found
    ((Bool.not_eq_true' _).mp live) ⟨unable _, unable _⟩

/-- The tenant has no balance and the campaign is live, and still its pass asks for a text and logs
it as sent. -/
theorem sample_tab_sent :
    let world : World Unit Binary64 := Sample.world Sample.unpaid
    world.store.balances.isEmpty = true ∧
      (world.store.campaign? 1).any (fun old => !Pass.isMock Sample.settings old) = true ∧
      ((Pass.requests Sample.engine.toEngine 1 world).filterMap id).length = 1 ∧
      (((Pass.execute Sample.engine.toEngine 1).run.run world).2.store.messages.any
        fun row => row.status == .sent) = true := by
  decide +kernel

end Herald
