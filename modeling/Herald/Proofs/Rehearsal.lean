import Herald.Proofs.Calm
import Herald.Proofs.Charges
import Herald.Proofs.Encounters
import Herald.Proofs.Totals
import Herald.Proofs.Views

/-! # Simulated passes beside live ones

A simulated message asks nobody and costs nothing, and is logged as delivered where a live one is
logged as sent. `Rehearses` says that two worlds differ in no more than that, and that the simulated
pass has paid for nothing. Every access of a pass to the tables keeps worlds so, as long as every
message of the live pass goes out.
-/

namespace Herald

variable {σ α β κ : Type} [Amount α]

/-! ## What is left out of the comparison -/

/-- Sums without deliveries and costs, which only one of a live and a simulated pass adds to. -/
def Aggregates.outline (sums : Aggregates α) : Aggregates α :=
  { sums with delivered := .int 0, cost := Amount.zero }

/-- A campaign without its test flag, its deliveries and its costs. -/
def Campaign.outline (campaign : Campaign α) : Campaign α :=
  { campaign with isTest := false, sms := campaign.sms.outline, email := campaign.email.outline }

/-- A row of the log without its outcome and its cost. -/
def Message.outline (row : Message α) : Message α :=
  { row with
    cost := Amount.zero, providerCost := none, status := .failed, isTest := false
    providerId := none, deliveredAt := none }

/-- The tables but log and balances, and campaigns in outline. -/
def Store.outline (store : Store α) : Store α :=
  { store with campaigns := store.campaigns.map Campaign.outline, messages := [], balances := [] }

/-- A row of a message that went out. -/
structure Message.IsLive (row : Message α) : Prop where
  isTest_eq : row.isTest = false
  status_eq : row.status = .sent

/-- A row of a simulated message. -/
structure Message.IsMock (row : Message α) : Prop where
  isTest_eq : row.isTest = true
  status_eq : row.status = .delivered
  cost_eq : row.cost = Amount.zero

/-- A simulated pass that has come as far as a live one, both from the same tables: it has logged
the same messages as simulated, has paid for none, and agrees in everything else. -/
structure Rehearses (before : Store α) (live mock : World σ α) : Prop where
  now_eq : mock.now = live.now
  outline_eq : mock.store.outline = live.store.outline
  balances_eq : mock.store.balances = before.balances
  logged : ∃ rows rows', live.store.messages = before.messages ++ rows ∧
    mock.store.messages = before.messages ++ rows' ∧
      rows'.map Message.outline = rows.map Message.outline ∧
        (∀ row ∈ rows, row.IsLive) ∧ ∀ row ∈ rows', row.IsMock

namespace Store

theorem outline_recordIn (campaign targetId : Int) (target tenant : String) (now : Moment)
    (store : Store α) :
    (CooldownLedger.recordIn campaign target targetId tenant now store).outline =
      CooldownLedger.recordIn campaign target targetId tenant now store.outline := by
  have same : store.outline.cooldowns = store.cooldowns := rfl
  rw [CooldownLedger.recordIn, CooldownLedger.recordIn, same]
  split <;> rfl

end Store

namespace Rehearses

variable {before : Store α} {live mock : World σ α}

section View

variable (rehearses : Rehearses before live mock)

include rehearses

/-- The next row of the log gets the same id. -/
theorem nextId_eq : nextId (mock.store.messages.map Message.id) =
    nextId (live.store.messages.map Message.id) := by
  obtain ⟨rows, rows', logged, logged', same, -⟩ := rehearses.logged
  have ids : ∀ rows : List (Message α), (rows.map Message.outline).map Message.id =
      rows.map Message.id := fun rows => by rw [List.map_map]; rfl
  rw [logged, logged', List.map_append, List.map_append, ← ids rows', same, ids rows]

/-- Both passes have reached the same targets. -/
theorem messagedIn_eq (id : Int) (target : String) :
    Lifecycle.messagedIn mock.store id target = Lifecycle.messagedIn live.store id target := by
  obtain ⟨rows, rows', logged, logged', same, areLive, areMock⟩ := rehearses.logged
  -- Whatever has been logged since has gone out, so its outline tells whom it has reached.
  have reached : ∀ {rows : List (Message α)}, (∀ row ∈ rows, row.status.isSuccess = true) →
      ((rows.filter fun row => row.campaign == id && row.target == target &&
        row.status.isSuccess).map Message.targetId) = (((rows.map Message.outline).filter fun row =>
          row.campaign == id && row.target == target).map Message.targetId) := by
    intro rows success
    rw [List.filter_map, List.map_map]
    refine congrArg (List.map Message.targetId) (List.filter_congr fun row member => ?_)
    rw [success row member, Bool.and_true]
    rfl
  have areLive : ∀ row ∈ rows, row.status.isSuccess = true := fun row member => by
    rw [(areLive row member).status_eq]
    rfl
  have areMock : ∀ row ∈ rows', row.status.isSuccess = true := fun row member => by
    rw [(areMock row member).status_eq]
    rfl
  rw [Lifecycle.messagedIn, Lifecycle.messagedIn, logged, logged', List.filter_append,
    List.filter_append, List.map_append, List.map_append, reached areMock, reached areLive, same]

/-- Journal and surroundings do not count. -/
theorem of_eq {live' mock' : World σ α} (live_eq : (live'.store, live'.now) = (live.store, live.now))
    (mock_eq : (mock'.store, mock'.now) = (mock.store, mock.now)) :
    Rehearses before live' mock' := by
  obtain ⟨store, now⟩ := Prod.ext_iff.mp live_eq
  obtain ⟨store', now'⟩ := Prod.ext_iff.mp mock_eq
  dsimp only at store now store' now'
  constructor
  · rw [now, now', rehearses.now_eq]
  · rw [store, store', rehearses.outline_eq]
  · rw [store', rehearses.balances_eq]
  · rw [store, store']
    exact rehearses.logged

end View

/-- Worlds remain alike behind writes to the other tables that do not look at what differs. -/
theorem shows :
    Shows Store.outline Campaign.outline (Rehearses before : World σ α → World σ α → Prop) where
  created _ := rfl
  targets _ kind := by cases kind <;> rfl
  campaigns _ _ := rfl
  id _ := rfl
  status _ := rfl
  now_eq rehearses := rehearses.now_eq
  view_eq rehearses := rehearses.outline_eq
  put rehearses outline books books' := by
    have messages := congrArg (fun books => books.2.1) books
    have messages' := congrArg (fun books => books.2.1) books'
    have balances' := congrArg (fun books => books.2.2) books'
    obtain ⟨rows, rows', logged, logged', are⟩ := rehearses.logged
    exact ⟨rehearses.now_eq, outline, balances'.trans rehearses.balances_eq, rows, rows',
      messages.trans logged, messages'.trans logged', are⟩

end Rehearses

/-! ## One message -/

namespace Send

/-- The outline of the row of a message that goes out. -/
def outlineOf (campaign : Campaign α) (target : TargetRecord) (channel : Channel)
    (message : Composed) (now : Moment) (id : Int) : Message α :=
  ({ row campaign target channel message (Text.trimmed ((target.contact channel).getD "")) false
    now id with sentAt := some now } : Message α).outline

theorem sentRow_isLive {blank row : Message α} {cost : Decimal} {outcome : Outcome} {now : Moment}
    (live : blank.isTest = false) (made : sentRow blank cost outcome now = .ok row) :
    row.IsLive ∧ row.outline = { blank with sentAt := some now }.outline := by
  obtain ⟨stored, _, made⟩ := ok_of_bind made
  obtain ⟨reported, _, made⟩ := ok_of_bind made
  cases made
  exact ⟨⟨live, rfl⟩, rfl⟩

/-- The tables without the balances, and the time. -/
def unpaid (world : World σ α) : Store α × Moment :=
  ({ world.store with balances := [] }, world.now)

omit [Amount α] in
/-- Worlds that differ in the balances alone. -/
theorem store_of_unpaid {before after : World σ α} (same : unpaid after = unpaid before) :
    after.store = { before.store with balances := after.store.balances } :=
  congrArg (fun both : Store α × Moment =>
    ({ both.1 with balances := after.store.balances } : Store α)) same

/-- What goes out changes balances and is logged as it has been written. -/
theorem sendLive_charged {engine : Engine σ α} (calm : engine.IsCalm) (tenant : String)
    (channel : Channel) (price : Decimal) (outgoing : Outgoing) {blank : Moment → Int → Message α}
    (isLive : ∀ now id, (blank now id).isTest = false) (world : World σ α) :
    Ends (sendLive engine tenant channel price outgoing blank) world fun result after =>
      ∀ cost, result = .ok (.charged cost) → ∃ row balances, row.IsLive ∧
        row.outline = { blank world.now (nextId (world.store.messages.map Message.id)) with
          sentAt := some world.now }.outline ∧ after.now = world.now ∧
        after.store = { world.store with
          messages := world.store.messages ++ [row], balances } := by
  have pays : BalanceLedger.Allows (Agree (unpaid : World σ α → Store α × Moment)) := fun _ _ => rfl
  have asks : ∀ request, Moves (Agree unpaid) (engine.exchange request).run := fun request =>
    (calm.exchange request).mono fun _ _ same => congrArg
      (fun both : Store α × Moment => (({ both.1 with balances := [] } : Store α), both.2)) same
  rw [sendLive, ends_bind]
  refine ((BalanceLedger.deduct_moves pays _ _).leads world).mono ?_
  rintro (failure | ⟨_ | _⟩) paid same
  · rintro _ ⟨⟩
  · rintro _ ⟨⟩
  simp only [Bool.not_true, Bool.false_eq_true, ↓reduceIte]
  rw [ends_bind]
  refine ((settle_moves asks pays _ _ _ _).leads paid).mono ?_
  rintro (failure | outcome) settled still
  · rintro _ ⟨⟩
  have same : unpaid settled = unpaid world := still.trans same
  have tables := store_of_unpaid same
  have messages : settled.store.messages = world.store.messages := by rw [tables]
  have now : settled.now = world.now := congrArg Prod.snd same
  dsimp only
  split
  · rw [ends_bind, ends_clock]
    dsimp only
    rw [ends_bind]
    refine ends_commit_of (by rintro _ _ ⟨⟩) fun value store wrote cost sent => ?_
    obtain ⟨row, made, wrote⟩ := ok_of_bind wrote
    obtain ⟨live, outline⟩ := sentRow_isLive (isLive _ _) made
    cases wrote
    refine ⟨row, settled.store.balances, live, ?_, now, ?_⟩
    · rw [outline, now, messages]
    · exact congrArg (fun store : Store α =>
        { store with messages := store.messages ++ [row] }) tables
  · rw [ends_bind]
    refine (leads_true _ _).mono ?_
    rintro (failure | value) refunded _
    · rintro _ ⟨⟩
    · dsimp only
      rw [ends_bind, ends_clock]
      dsimp only
      rw [ends_bind]
      refine (leads_true _ _).mono ?_
      rintro (failure | value) logged _ <;> rintro _ ⟨⟩

/-- A message that goes out changes balances and is logged as it has been composed. -/
theorem message_charged {engine : Engine σ α} (calm : engine.IsCalm) (campaign : Campaign α)
    (target : TargetRecord) (channel : Channel) (world : World σ α) :
    Ends (message engine campaign false target channel) world fun result after =>
      ∀ cost, result = .ok (.charged cost) → ∃ composed,
        Composed.of engine.settings campaign.content target.attributes channel = .ok composed ∧
          ∃ row balances, row.IsLive ∧ row.outline = outlineOf campaign target channel composed
              world.now (nextId (world.store.messages.map Message.id)) ∧
            after.now = world.now ∧ after.store = { world.store with
              messages := world.store.messages ++ [row], balances } := by
  rw [message, ends_bind, ends_pure?]
  cases composes : Composed.of engine.settings campaign.content target.attributes channel with
  | error failure => rintro _ ⟨⟩
  | ok composed =>
    dsimp only
    rw [if_neg Bool.false_ne_true]
    refine (sendLive_charged calm campaign.tenant channel composed.cost _ (fun _ _ => rfl)
      world).mono fun result after charged cost sent => ?_
    exact ⟨composed, rfl, charged cost sent⟩

/-- A simulated message is logged as it has been composed, and nothing else changes. -/
theorem message_simulated (engine : Engine σ α) {campaign : Campaign α} {target : TargetRecord}
    {channel : Channel} {composed : Composed} {world : World σ α}
    (created : world.store.created = true) (composes :
      Composed.of engine.settings campaign.content target.attributes channel = .ok composed) :
    Ends (message engine campaign true target channel) world fun result after =>
      result = .ok .simulated ∧ ∃ row : Message α, row.IsMock ∧
        row.outline = outlineOf campaign target channel composed world.now
          (nextId (world.store.messages.map Message.id)) ∧
        after = { world with
          store := { world.store with messages := world.store.messages ++ [row] } } := by
  rw [message, ends_bind, ends_pure?, composes]
  dsimp only
  rw [if_pos rfl, simulate, ends_bind, ends_clock]
  dsimp only
  rw [ends_bind, ends_commit created]
  refine ⟨rfl, _, ?_, ?_, rfl⟩
  · exact ⟨rfl, rfl, rfl⟩
  · rfl

end Send

/-! ## Tallies -/

/-- The counts of a live and a simulated pass on a channel. -/
structure ChannelTally.Rehearses (live mock : ChannelTally) : Prop where
  sent_eq : mock.sent = live.sent
  failed_eq : mock.failed = live.failed
  isEmpty_eq : mock.isEmpty = live.isEmpty
  cost_eq : mock.cost = .zero

/-- A live and a simulated pass have counted the same, apart from deliveries and costs. -/
def Tally.Rehearses (live mock : Tally) : Prop :=
  ∀ channel, (live.channel channel).Rehearses (mock.channel channel)

namespace Tally

theorem rehearses_empty : Tally.empty.Rehearses Tally.empty := by
  intro channel
  cases channel <;> exact ⟨rfl, rfl, rfl, rfl⟩

/-- A message that went out is counted beside a simulated one. -/
theorem Rehearses.record {live mock : Tally} (rehearses : live.Rehearses mock)
    (within : live.IsWithin) (channel : Channel) {cost : Decimal} (small : cost.IsWithin 310) :
    ∃ counted counted', live.record channel (.charged cost) = .ok counted ∧
      mock.record channel .simulated = .ok counted' ∧ counted.IsWithin ∧
        counted.Rehearses counted' := by
  have charged : ∀ other, Sent.charged cost = .charged other → other.IsWithin 310 := by
    rintro _ ⟨⟩
    exact small
  obtain ⟨counted, counts, bounded⟩ := within.exists_record channel charged
  have free : (mock.channel channel).cost.add .zero = .ok .zero := by
    rw [(rehearses channel).cost_eq]
    rfl
  refine ⟨counted, _, counts, by rw [Tally.record, success, ChannelTally.success, free]; rfl,
    bounded, fun other => ?_⟩
  rw [Tally.record, success, ChannelTally.success] at counts
  split at counts
  · cases counts
    rw [channel_withChannel, channel_withChannel]
    split
    · refine ⟨?_, ?_, ?_, rfl⟩
      · exact congrArg (· + 1) (rehearses channel).sent_eq
      · exact (rehearses channel).failed_eq
      · simp [ChannelTally.isEmpty]
    · exact rehearses other
  · cases counts

end Tally

/-- A live and a simulated pass have visited the same targets. -/
structure Progress.Rehearses (live mock : Progress) : Prop where
  eligible_eq : mock.eligible = live.eligible
  skipped_eq : mock.skipped = live.skipped
  stopped_eq : mock.stopped = live.stopped
  tally : live.tally.Rehearses mock.tally

end Herald
