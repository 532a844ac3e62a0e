import Herald.Pass.Progress
import Herald.Proofs.Standing

/-! # What a pass logs

Sending a message adds one row to the log if it has a result, and none if it fails. `Serves` follows
the messages to one target and the rows that they leave: a row for each channel in turn, up to the
first failure. It is free of worlds, so that what a target's rows can be is settled once.
-/

namespace Herald

variable {σ α : Type} [Amount α]

/-- The status under which a result is logged. -/
def Sent.status : Sent → MessageStatus
  | .charged _ => .sent
  | .simulated => .delivered
  | .rejected => .failed

theorem Sent.isSuccess_status (sent : Sent) : sent.status.isSuccess = sent.isSuccess := by
  cases sent <;> rfl

/-- A row is about a message of a campaign to a target on a channel, and what became of it. -/
structure Message.Records (row : Message α) (campaign : Campaign α) (target : TargetRecord)
    (channel : Channel) (sent : Sent) : Prop where
  tenant_eq : row.tenant = campaign.tenant
  campaign_eq : row.campaign = campaign.id
  target_eq : row.target = target.kind.name
  targetId_eq : row.targetId = target.id
  channel_eq : row.channel = channel
  status_eq : row.status = sent.status
  cost_eq : match sent with
    | .charged cost => BalanceLedger.stored cost = .ok row.cost
    | _ => row.cost = Amount.zero

/-- A row carries the message of a campaign to a target on a channel, as it has been composed. -/
structure Message.Carries (row : Message α) (settings : Settings) (campaign : Campaign α)
    (target : TargetRecord) (channel : Channel) : Prop where
  targetId_eq : row.targetId = target.id
  channel_eq : row.channel = channel
  recipient_eq : row.recipient = Text.trimmed ((target.contact channel).getD "")
  composed : ∃ message,
    Composed.of settings campaign.content target.attributes channel = .ok message ∧
      row.content = message.content ∧ row.subject = message.subject ∧
        row.segments = message.segments

/-! ## Moves of the ledger -/

section Moves

variable {R : World σ α → World σ α → Prop} [IsPreorder (World σ α) R]

/-- A relation that no change of balances leaves. -/
def BalanceLedger.Allows (R : World σ α → World σ α → Prop) : Prop :=
  ∀ (world : World σ α) balances, R world { world with store := { world.store with balances } }

namespace BalanceLedger

theorem deduct_moves (allows : Allows R) (tenant : String) (amount : Decimal) :
    Moves R (deduct tenant amount : Run σ α Bool).run := by
  refine moves_run_bind moves_pure? fun moved => ?_
  split
  · exact moves_run_pure
  · refine moves_commit fun world paid store _ wrote => ?_
    obtain ⟨cost, _, wrote⟩ := ok_of_bind wrote
    obtain ⟨changed, _, wrote⟩ := ok_of_bind wrote
    cases wrote
    exact allows world _

omit [IsPreorder (World σ α) R] in
theorem addIn_moves (allows : Allows R) {world : World σ α} {tenant : String} {amount : Decimal}
    {store : Store α} (wrote : addIn tenant amount world.store = .ok ((), store)) :
    R world { world with store } := by
  obtain ⟨cost, _, wrote⟩ := ok_of_bind wrote
  obtain ⟨changed, _, wrote⟩ := ok_of_bind wrote
  cases wrote
  exact allows world _

theorem refund_moves (allows : Allows R) (tenant : String) (amount : Decimal) :
    Moves R (refund tenant amount : Run σ α Unit).run := by
  refine moves_run_bind moves_pure? fun moved => ?_
  split
  · exact moves_run_pure
  · exact moves_commit fun world _ store _ wrote => addIn_moves allows wrote

theorem credit_moves (allows : Allows R) (tenant : String) (amount : Decimal) :
    Moves R (credit tenant amount : Run σ α Decimal).run := by
  refine moves_run_bind moves_pure? fun moved =>
    moves_run_bind (moves_commit fun world _ store _ wrote => ?_) fun _ => moves_query
  unfold creditIn at wrote
  split at wrote
  · exact addIn_moves allows wrote
  · obtain ⟨cost, _, wrote⟩ := ok_of_bind wrote
    cases wrote
    exact allows world _

end BalanceLedger

namespace Send

variable {engine : Engine σ α}

omit [Amount α] in
theorem deliver_moves_of {channel : Channel} {outgoing : Outgoing}
    (asks : ∀ request, (engine.provider channel).request outgoing = .ok request →
      Moves R (engine.exchange request).run) : Moves R (deliver engine channel outgoing).run := by
  unfold deliver
  split
  · exact moves_run_pure
  · exact moves_pure?_bind fun request asked => moves_run_bind (asks request asked) fun _ =>
      moves_pure?

theorem settle_moves_of {tenant : String} {cost : Decimal} {channel : Channel} {outgoing : Outgoing}
    (asks : ∀ request, (engine.provider channel).request outgoing = .ok request →
      Moves R (engine.exchange request).run)
    (repays : Moves R (BalanceLedger.refund tenant cost : Run σ α Unit).run) :
    Moves R (settle engine tenant cost channel outgoing).run := by
  refine moves_run_bind (deliver_moves_of asks) fun result => ?_
  cases result with
  | ok outcome => exact moves_run_pure
  | error failure =>
    dsimp only
    split
    · exact moves_run_pure
    · exact moves_run_pure
    · exact moves_run_bind repays fun _ => moves_throw

theorem settle_moves (asks : ∀ request, Moves R (engine.exchange request).run)
    (allows : BalanceLedger.Allows R) (tenant : String) (cost : Decimal) (channel : Channel)
    (outgoing : Outgoing) : Moves R (settle engine tenant cost channel outgoing).run :=
  settle_moves_of (fun request _ => asks request) (BalanceLedger.refund_moves allows tenant cost)

omit [Amount α] in
theorem log_moves {message : Int → Except Failure (Message α)}
    (logs : ∀ (world : World σ α) id row, message id = .ok row →
      R world { world with store := { world.store with messages := world.store.messages ++ [row] } }) :
    Moves R (Run.commit (logIn message) : Run σ α Unit).run := by
  refine moves_commit fun world _ store _ wrote => ?_
  obtain ⟨row, made, wrote⟩ := ok_of_bind wrote
  cases wrote
  exact logs world _ row made

/-- A message that is paid for moves along its payment, its request and the two rows that it may
leave. -/
theorem sendLive_moves_of {tenant : String} {cost : Decimal} {channel : Channel}
    {outgoing : Outgoing} {blank : Moment → Int → Message α}
    (pays : Moves R (BalanceLedger.deduct tenant cost : Run σ α Bool).run)
    (repays : Moves R (BalanceLedger.refund tenant cost : Run σ α Unit).run)
    (asks : ∀ request, (engine.provider channel).request outgoing = .ok request →
      Moves R (engine.exchange request).run)
    (sent : ∀ (world : World σ α) now id outcome row,
      sentRow (blank now id) cost outcome now = .ok row →
        R world { world with store := { world.store with messages := world.store.messages ++ [row] } })
    (failed : ∀ (world : World σ α) now id error,
      R world { world with store := { world.store with
        messages := world.store.messages ++ [{ blank now id with error }] } }) :
    Moves R (sendLive engine tenant channel cost outgoing blank).run := by
  refine moves_run_bind pays fun paid => ?_
  cases paid with
  | false => exact moves_throw_bind
  | true =>
    refine moves_run_bind (settle_moves_of asks repays) fun outcome => ?_
    split
    · exact moves_run_bind moves_clock fun now => moves_run_bind
        (log_moves fun world id row made => sent world now id outcome row made) fun _ =>
          moves_run_pure
    · refine moves_run_bind repays fun _ =>
        moves_run_bind moves_clock fun now => moves_run_bind (log_moves ?_) fun _ => moves_run_pure
      rintro world id row ⟨⟩
      exact failed world now id _

theorem sentRow_carries {settings : Settings} {campaign : Campaign α} {target : TargetRecord}
    {channel : Channel} {blank row : Message α} {cost : Decimal} {outcome : Outcome} {now : Moment}
    (carries : blank.Carries settings campaign target channel)
    (made : sentRow blank cost outcome now = .ok row) :
    row.Carries settings campaign target channel := by
  obtain ⟨stored, _, made⟩ := ok_of_bind made
  obtain ⟨reported, _, made⟩ := ok_of_bind made
  cases made
  exact ⟨carries.targetId_eq, carries.channel_eq, carries.recipient_eq, carries.composed⟩

/-- A message pays or is paid back, asks its provider, and is logged as it has been composed. -/
theorem message_logs (asks : ∀ request, Moves R (engine.exchange request).run)
    (allows : BalanceLedger.Allows R) {campaign : Campaign α} {target : TargetRecord}
    {channel : Channel}
    (logs : ∀ (world : World σ α) row, row.Carries engine.settings campaign target channel →
      R world { world with store := { world.store with messages := world.store.messages ++ [row] } })
    (isTest : Bool) : Moves R (message engine campaign isTest target channel).run := by
  refine moves_pure?_bind fun composed composes => ?_
  dsimp only
  have carries : ∀ now id, (row campaign target channel composed
      (Text.trimmed ((target.contact channel).getD "")) isTest now id).Carries engine.settings
        campaign target channel :=
    fun _ _ => ⟨rfl, rfl, rfl, composed, composes, rfl, rfl, rfl⟩
  split
  · refine moves_run_bind moves_clock fun now => moves_run_bind (log_moves ?_) fun _ =>
      moves_run_pure
    rintro world id row ⟨⟩
    exact logs world _ ⟨rfl, rfl, rfl, (carries now id).composed⟩
  · exact sendLive_moves_of (BalanceLedger.deduct_moves allows _ _)
      (BalanceLedger.refund_moves allows _ _) (fun request _ => asks request)
      (fun world now id _ row made => logs world row (sentRow_carries (carries now id) made))
      fun world now id _ => logs world _ ⟨rfl, rfl, rfl, (carries now id).composed⟩

theorem message_moves (asks : ∀ request, Moves R (engine.exchange request).run)
    (allows : BalanceLedger.Allows R)
    (logs : ∀ (world : World σ α) row,
      R world { world with store := { world.store with messages := world.store.messages ++ [row] } })
    (campaign : Campaign α) (isTest : Bool) (target : TargetRecord) (channel : Channel) :
    Moves R (message engine campaign isTest target channel).run :=
  message_logs asks allows (fun world row _ => logs world row) isTest

end Send

end Moves

/-! ## One message -/

namespace Send

variable {engine : Engine σ α}

/-- What a result leaves behind in the log: one row about it, or nothing. -/
def Logs (campaign : Campaign α) (target : TargetRecord) (channel : Channel)
    (before after : List (Message α)) : Except Failure Sent → Prop
  | .ok sent => ∃ row : Message α, row.Records campaign target channel sent ∧ after = before ++ [row]
  | .error _ => after = before

omit [Amount α] in
theorem log_ends {world : World σ α} {message : Int → Except Failure (Message α)} :
    Ends (Run.commit (logIn message)) world fun result after =>
      match result with
      | .ok _ => ∃ id row, message id = .ok row ∧
          after.store.messages = world.store.messages ++ [row]
      | .error _ => after.store.messages = world.store.messages := by
  refine ends_commit_of (fun _ => rfl) fun value store wrote => ?_
  obtain ⟨row, made, wrote⟩ := ok_of_bind wrote
  cases wrote
  exact ⟨_, row, made, rfl⟩

/-- Logging is the last thing that can fail. -/
theorem logged_ends {campaign : Campaign α} {target : TargetRecord} {channel : Channel}
    {before : List (Message α)} {world : World σ α} (same : world.store.messages = before)
    {sent : Sent} {message : Int → Except Failure (Message α)}
    (records : ∀ id row, message id = .ok row → row.Records campaign target channel sent) :
    Ends (do Run.commit (logIn message); return sent : Run σ α Sent) world
      fun result after => Logs campaign target channel before after.store.messages result := by
  subst same
  rw [ends_bind]
  refine Leads.mono log_ends ?_
  intro result after logged
  cases result with
  | error failure => exact logged
  | ok value =>
    obtain ⟨id, row, made, logged⟩ := logged
    exact ⟨row, records id row made, logged⟩

/-- The rows of a message are about it, whatever becomes of it. -/
def RowsOf (campaign : Campaign α) (target : TargetRecord) (channel : Channel)
    (row : Moment → Int → Message α) : Prop :=
  ∀ now id, (row now id).Records campaign target channel .rejected

theorem sentRow_records {campaign : Campaign α} {target : TargetRecord} {channel : Channel}
    {blank row : Message α} {cost : Decimal} {outcome : Outcome} {now : Moment}
    (about : blank.Records campaign target channel .rejected)
    (made : sentRow blank cost outcome now = .ok row) :
    row.Records campaign target channel (.charged cost) := by
  obtain ⟨stored, paid, made⟩ := ok_of_bind made
  obtain ⟨reported, _, made⟩ := ok_of_bind made
  cases made
  exact ⟨about.tenant_eq, about.campaign_eq, about.target_eq, about.targetId_eq, about.channel_eq,
    rfl, paid⟩

theorem sendLive_ends
    (asks : ∀ request, Moves (Agree fun world : World σ α => world.store.messages)
      (engine.exchange request).run)
    {campaign : Campaign α} {target : TargetRecord} {channel : Channel} (tenant : String)
    (cost : Decimal) (outgoing : Outgoing) {row : Moment → Int → Message α}
    (about : RowsOf campaign target channel row) (world : World σ α) :
    Ends (sendLive engine tenant channel cost outgoing row) world fun result after =>
      Logs campaign target channel world.store.messages after.store.messages result := by
  have pays : BalanceLedger.Allows (Agree fun world : World σ α => world.store.messages) :=
    fun _ _ => rfl
  rw [sendLive, ends_bind]
  refine ((BalanceLedger.deduct_moves pays tenant cost).leads world).mono ?_
  intro result paid same
  rcases result with failure | ⟨_ | _⟩
  · exact same
  · exact same
  · simp only [Bool.not_true, Bool.false_eq_true, ↓reduceIte]
    rw [ends_bind]
    refine ((settle_moves asks pays tenant cost channel outgoing).leads paid).mono ?_
    intro result settled still
    have same := still.trans same
    cases result with
    | error failure => exact same
    | ok outcome =>
      dsimp only
      split
      · rw [ends_bind, ends_clock]
        exact logged_ends same fun id row made => sentRow_records (about _ id) made
      · rw [ends_bind]
        refine ((BalanceLedger.refund_moves pays tenant cost).leads settled).mono ?_
        intro result refunded still
        have same := still.trans same
        cases result with
        | error failure => exact same
        | ok value =>
          dsimp only
          rw [ends_bind, ends_clock]
          refine logged_ends same fun id row made => ?_
          cases made
          exact ⟨(about _ id).tenant_eq, (about _ id).campaign_eq, (about _ id).target_eq,
            (about _ id).targetId_eq, (about _ id).channel_eq, (about _ id).status_eq,
            (about _ id).cost_eq⟩

/-- A message that has a result is logged with it, and one that fails is not logged. -/
theorem message_ends
    (asks : ∀ request, Moves (Agree fun world : World σ α => world.store.messages)
      (engine.exchange request).run)
    (campaign : Campaign α) (isTest : Bool) (target : TargetRecord) (channel : Channel)
    (world : World σ α) :
    Ends (message engine campaign isTest target channel) world fun result after =>
      Logs campaign target channel world.store.messages after.store.messages result := by
  rw [message, ends_bind, ends_pure?]
  cases Composed.of engine.settings campaign.content target.attributes channel with
  | error failure => exact rfl
  | ok composed =>
    dsimp only
    have about : RowsOf campaign target channel (row campaign target channel composed
        (Text.trimmed ((target.contact channel).getD "")) isTest) :=
      fun now id => ⟨rfl, rfl, rfl, rfl, rfl, rfl, rfl⟩
    split
    · rw [simulate, ends_bind, ends_clock]
      refine logged_ends rfl fun id row made => ?_
      cases made
      exact ⟨rfl, rfl, rfl, rfl, rfl, rfl, rfl⟩
    · exact sendLive_ends asks campaign.tenant _ _ about world

end Send

end Herald
