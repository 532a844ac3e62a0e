import Herald.Proofs.Cents
import Herald.Proofs.Funds
import Herald.Proofs.Segments
import Herald.Proofs.Senders

/-! # Messages that are paid for

A message is paid for before it is handed over, and what is paid comes back when it cannot be
delivered. So a balance that covers the price of a message pays for it and is less by that price at
most, whatever the provider answers, and neither composing the message, nor the provider, nor the
record of the attempt says that a tenant cannot pay.
-/

namespace Herald

variable {σ α β γ : Type}

/-! ## Failures other than a lack of balance -/

/-- A result other than that a tenant cannot pay. -/
def IsSolvent (result : Except Failure β) : Prop :=
  ∀ tenant amount, result ≠ .error (.insufficientBalance tenant amount)

/-- An action that never tells that a tenant cannot pay. -/
def Solvent (action : Run σ α β) : Prop :=
  ∀ world, Ends action world fun result _ => IsSolvent result

theorem isSolvent_ok (value : β) : IsSolvent (.ok value) := by rintro _ _ ⟨⟩

theorem IsSolvent.error {failure : Failure}
    (solvent : IsSolvent (.error failure : Except Failure β)) :
    IsSolvent (.error failure : Except Failure γ) := by
  rintro tenant amount ⟨⟩
  exact solvent tenant amount rfl

theorem isSolvent_bind {found : Except Failure β} {next : β → Except Failure γ}
    (first : IsSolvent found) (rest : ∀ value, IsSolvent (next value)) :
    IsSolvent (found >>= next) := by
  cases found with
  | ok value => exact rest value
  | error failure => exact first.error

theorem solvent_pure {value : β} : Solvent (pure value : Run σ α β) := fun _ => isSolvent_ok value

theorem solvent_bind {action : Run σ α β} {next : β → Run σ α γ} (first : Solvent action)
    (rest : ∀ value, Solvent (next value)) : Solvent (action >>= next) := by
  intro world
  rw [ends_bind]
  refine (first world).mono ?_
  rintro (failure | value) after solvent
  · exact solvent.error
  · exact rest value after

theorem solvent_pure? {found : Except Failure β} (solvent : IsSolvent found) :
    Solvent (Run.pure? found : Run σ α β) := fun _ => ends_pure?.mpr solvent

theorem solvent_clock : Solvent (Run.clock : Run σ α Moment) := fun world => isSolvent_ok world.now

theorem solvent_commit {write : Store α → Except Failure (β × Store α)}
    (solvent : ∀ store, IsSolvent (write store)) : Solvent (Run.commit write : Run σ α β) := by
  intro world
  simp only [Run.commit, ends_bind, ends_get]
  split
  · cases wrote : write world.store with
    | ok written => exact isSolvent_ok written.1
    | error failure =>
      rintro tenant amount ⟨⟩
      exact solvent world.store tenant amount wrote
  · rintro _ _ ⟨⟩

/-! ### Providers -/

namespace Provider

theorem isSolvent_request (provider : Provider) (message : Outgoing) :
    IsSolvent (provider.request message) := by
  unfold request
  split
  · split <;> rintro _ _ ⟨⟩
  · split <;> rintro _ _ ⟨⟩
  · rintro _ _ ⟨⟩

theorem isSolvent_written (part : Value) : IsSolvent (written part) := by
  unfold written
  split <;> rintro _ _ ⟨⟩

theorem isSolvent_checkedOutcome (fields : Fields) : IsSolvent (checkedOutcome fields) := by
  unfold checkedOutcome
  split <;> rintro _ _ ⟨⟩

theorem isSolvent_emailOutcome (answer : Answer) : IsSolvent (emailOutcome answer) := by
  unfold emailOutcome
  split
  · split
    · refine isSolvent_bind (isSolvent_bind (isSolvent_written _) fun part => ?_) fun _ =>
        isSolvent_bind (isSolvent_written _) fun _ => isSolvent_checkedOutcome _
      split
      · exact isSolvent_ok _
      · split <;> exact isSolvent_ok _
    · refine isSolvent_bind ?_ fun _ => isSolvent_bind (isSolvent_written _) fun _ =>
        isSolvent_checkedOutcome _
      unfold reportedError
      dsimp only
      split_ifs
      · exact isSolvent_ok _
      · exact isSolvent_ok _
      · split <;> rintro _ _ ⟨⟩
  · rintro _ _ ⟨⟩

/-- Whatever a provider replies, it is not that a tenant cannot pay. -/
theorem isSolvent_outcome (provider : Provider) (reply : Reply) :
    IsSolvent (provider.outcome reply) := by
  unfold outcome
  split
  · split
    · exact isSolvent_emailOutcome _
    · exact isSolvent_ok _
  all_goals rintro _ _ ⟨⟩

end Provider

theorem isSolvent_stored [Amount α] (amount : Decimal) :
    IsSolvent (BalanceLedger.stored amount : Except Failure α) := by
  unfold BalanceLedger.stored
  split <;> rintro _ _ ⟨⟩

theorem isSolvent_movable (amount : Decimal) : IsSolvent (BalanceLedger.movable amount) := by
  unfold BalanceLedger.movable
  split <;> rintro _ _ ⟨⟩

theorem Composed.isSolvent_of (settings : Settings) (content : Content) (attributes : Fields)
    (channel : Channel) : IsSolvent (of settings content attributes channel) := by
  cases channel with
  | email => exact isSolvent_ok _
  | sms =>
    unfold of ofSms
    dsimp only
    split
    · exact isSolvent_ok _
    · rename_i signal _
      cases signal <;> rintro _ _ ⟨⟩

/-! ## Balances -/

/-- There are no less funds than before. -/
def NotLess (funds : World σ α → ℚ) (before after : World σ α) : Prop := funds before ≤ funds after

instance (funds : World σ α → ℚ) : IsPreorder (World σ α) (NotLess funds) where
  refl _ := le_refl _
  trans _ _ _ := le_trans

/-- A tenant has no less left than before. -/
abbrev NotPoorer (tenant : String) : World σ Exact → World σ Exact → Prop :=
  NotLess fun world => balanceOf world.store tenant

theorem NotPoorer.of_balances {tenant : String} {before after : World σ Exact}
    (same : after.store.balances = before.store.balances) : NotPoorer tenant before after := by
  simp only [NotLess, balanceOf, BalanceLedger.row?, same, le_refl]

namespace BalanceLedger

variable {tenant : String} {amount : Decimal}

/-- What a change of a tenant's rows adds to its balance, or what it would add. -/
theorem le_balanceOf_adjusted {store : Store Exact} {condition : Exact → Bool}
    {update : Exact → Exact} {loss : ℚ} (unsigned : 0 ≤ loss)
    (gains : ∀ held : Exact, held.value - loss ≤ (update held).value) :
    balanceOf store tenant - loss ≤ balanceOf
      { store with balances := adjusted tenant condition update store.balances } tenant := by
  simp only [balanceOf, row?_adjusted]
  cases row? store tenant with
  | none => simpa using unsigned
  | some row =>
    dsimp only [Option.map_some, Option.getD_some]
    split
    · exact gains row.amount
    · exact sub_le_self _ unsigned

theorem stored_value {cost : Exact} (ok : stored amount = .ok cost) :
    amount.isFinite = true ∧ cost.value = amount.ratio := by
  cases finite : amount.isFinite with
  | false =>
    rw [Exact.stored_of_infinite finite] at ok
    cases ok
  | true =>
    rw [Exact.stored_of_finite finite] at ok
    cases ok
    exact ⟨rfl, rfl⟩

/-- A deduction does not tell that a tenant cannot pay; that is for the one who asked for it. -/
theorem deduct_solvent : Solvent (deduct tenant amount : Run σ Exact Bool) := by
  refine solvent_bind (solvent_pure? (isSolvent_movable amount)) fun moved => ?_
  split
  · exact solvent_pure
  · refine solvent_commit fun store => isSolvent_bind (isSolvent_stored moved) fun cost => ?_
    simp only [Exact.sub?_eq, change_total]
    exact isSolvent_ok _

theorem refund_solvent : Solvent (refund tenant amount : Run σ Exact Unit) := by
  refine solvent_bind (solvent_pure? (isSolvent_movable amount)) fun moved => ?_
  split
  · exact solvent_pure
  · refine solvent_commit fun store => isSolvent_bind (isSolvent_stored moved) fun cost => ?_
    simp only [Exact.add?_eq, change_total]
    exact isSolvent_ok _

/-- What a balance covers is deducted, if nothing else prevents it, and nothing beyond it. -/
theorem deduct_affords {world : World σ Exact} (unsigned : 0 ≤ amount.ratio)
    (covered : amount.ratio ≤ balanceOf world.store tenant) :
    Ends (deduct tenant amount) world fun result after => result ≠ .ok false ∧
      balanceOf world.store tenant - amount.ratio ≤ balanceOf after.store tenant := by
  have still := sub_le_self (balanceOf world.store tenant) unsigned
  rw [deduct, ends_bind, ends_pure?]
  cases moves : movable amount with
  | error failure => exact ⟨by rintro ⟨⟩, still⟩
  | ok moved =>
    obtain ⟨rfl, -⟩ := movable_ok moves
    dsimp only
    split
    · exact ⟨by rintro ⟨⟩, still⟩
    · rename_i some
      refine ends_commit_of (fun failure => ⟨by rintro ⟨⟩, still⟩) fun paid store wrote => ?_
      obtain ⟨cost, stores, wrote⟩ := ok_of_bind wrote
      obtain ⟨finite, value⟩ := stored_value stores
      simp only [Exact.sub?_eq, change_total, bind, Except.bind, pure, Except.pure,
        Except.ok.injEq, Prod.mk.injEq] at wrote
      obtain ⟨rfl, rfl⟩ := wrote
      refine ⟨fun unpaid => ?_, le_balanceOf_adjusted unsigned fun held => ?_⟩
      · have positive : 0 < moved.ratio :=
          lt_of_le_of_ne unsigned fun none => some (Decimal.isZero_of_ratio finite none.symm)
        rw [Except.ok.injEq, bne_eq_false_iff_eq, List.countP_eq_zero] at unpaid
        cases found : row? world.store tenant with
        | none =>
          simp only [balanceOf, found, Option.map_none, Option.getD_none] at covered
          exact absurd positive (not_lt.mpr covered)
        | some row =>
          refine unpaid row (List.mem_of_find?_eq_some found) ?_
          have own : row.tenant = tenant := by simpa using List.find?_some found
          simp only [balanceOf, found, Option.map_some, Option.getD_some] at covered
          simpa only [own, BEq.rfl, Bool.true_and, Exact.covers_iff, value] using covered
      · rw [Exact.become_value, value]

/-- Whoever is given back an amount is not poorer. -/
theorem refund_notPoorer :
    Moves (NotPoorer tenant) (refund tenant amount : Run σ Exact Unit).run := by
  refine moves_pure?_bind fun moved moves => ?_
  obtain ⟨rfl, unsigned⟩ := movable_ok moves
  split
  · exact moves_run_pure
  · refine moves_commit fun world _ store _ wrote => ?_
    obtain ⟨cost, stores, wrote⟩ := ok_of_bind wrote
    simp only [Exact.add?_eq, change_total, bind, Except.bind, pure, Except.pure,
      Except.ok.injEq, Prod.mk.injEq, true_and] at wrote
    subst wrote
    have gains : ∀ held : Exact, held.value - 0 ≤ (held.become (held.value + cost.value)).value :=
      fun held => by simp [(stored_value stores).2, unsigned]
    simpa only [NotPoorer, NotLess, sub_zero] using le_balanceOf_adjusted (le_refl 0) gains

end BalanceLedger

/-! ## Messages -/

/-- An engine around which nobody else touches the balances, or the targets that a pass goes over,
and which leaves it to its ledger to tell that a tenant cannot pay. Whatever else its providers
answer, and whatever else happens meanwhile, may happen. -/
structure Engine.SparesFunds (engine : Engine σ Exact) : Prop where
  solvent : ∀ request, Solvent (engine.exchange request)
  balances : ∀ request,
    Moves (Agree fun world => world.store.balances) (engine.exchange request).run
  table : ∀ kind request, Moves (Agree (World.table kind)) (engine.exchange request).run

namespace Send

variable {engine : Engine σ Exact}

theorem log_solvent {message : Int → Except Failure (Message Exact)}
    (solvent : ∀ id, IsSolvent (message id)) :
    Solvent (Run.commit (logIn message) : Run σ Exact Unit) :=
  solvent_commit fun _ => isSolvent_bind (solvent _) fun _ => isSolvent_ok _

theorem sentRow_isSolvent (row : Message Exact) (cost : Decimal) (outcome : Outcome)
    (now : Moment) :
    IsSolvent (sentRow row cost outcome now) := by
  refine isSolvent_bind (isSolvent_stored cost) fun _ => isSolvent_bind ?_ fun _ => isSolvent_ok _
  cases outcome.cost with
  | none => exact isSolvent_ok _
  | some reported =>
    exact isSolvent_bind (isSolvent_stored reported) fun _ => isSolvent_ok _

theorem simulate_solvent (row : Moment → Int → Message Exact) :
    Solvent (simulate row : Run σ Exact Sent) :=
  solvent_bind solvent_clock fun _ => solvent_bind (log_solvent fun _ => isSolvent_ok _) fun _ =>
    solvent_pure

theorem deliver_solvent (spares : engine.SparesFunds) (channel : Channel) (outgoing : Outgoing) :
    Solvent (deliver engine channel outgoing) := by
  unfold deliver
  dsimp only
  split
  · exact solvent_pure
  · exact solvent_bind (solvent_pure? (Provider.isSolvent_request _ _)) fun request =>
      solvent_bind (spares.solvent request) fun reply =>
        solvent_pure? (Provider.isSolvent_outcome _ _)

theorem settle_solvent (spares : engine.SparesFunds) (tenant : String) (cost : Decimal)
    (channel : Channel) (outgoing : Outgoing) :
    Solvent (settle engine tenant cost channel outgoing) := by
  intro world
  rw [settle, ends_bind, ends_attempt]
  refine (deliver_solvent spares channel outgoing world).mono ?_
  rintro (failure | outcome) after solvent
  · dsimp only
    split
    · exact isSolvent_ok _
    · exact isSolvent_ok _
    · refine solvent_bind BalanceLedger.refund_solvent (fun _ world => ?_) after
      exact solvent.error
  · exact isSolvent_ok _

/-- A message that a balance covers is paid for, and costs no more than its price. -/
theorem sendLive_affords (spares : engine.SparesFunds) {tenant : String} {channel : Channel}
    {cost : Decimal} {outgoing : Outgoing} {blank : Moment → Int → Message Exact}
    {world : World σ Exact} (unsigned : 0 ≤ cost.ratio)
    (covered : cost.ratio ≤ balanceOf world.store tenant) :
    Ends (sendLive engine tenant channel cost outgoing blank) world fun result after =>
      IsSolvent result ∧
        balanceOf world.store tenant - cost.ratio ≤ balanceOf after.store tenant := by
  have log : ∀ message,
      Moves (NotPoorer tenant) (Run.commit (logIn message) : Run σ Exact Unit).run :=
    fun message => log_moves fun _ _ _ _ => .of_balances rfl
  have settles : Moves (NotPoorer tenant) (settle engine tenant cost channel outgoing).run :=
    settle_moves_of (fun request _ => (spares.balances request).mono fun _ _ => .of_balances)
      BalanceLedger.refund_notPoorer
  rw [sendLive, ends_bind]
  refine ((BalanceLedger.deduct_affords unsigned covered).and
    (BalanceLedger.deduct_solvent world)).mono ?_
  rintro (failure | paid) middle ⟨⟨paid_ne, left⟩, solvent⟩
  · exact ⟨solvent.error, left⟩
  cases paid with
  | false => exact absurd rfl paid_ne
  | true =>
    have goesOn : ∀ rest : Run σ Exact Sent, Solvent rest → Moves (NotPoorer tenant) rest.run →
        Ends rest middle fun result after => IsSolvent result ∧
          balanceOf world.store tenant - cost.ratio ≤ balanceOf after.store tenant :=
      fun rest solvent moves => ((solvent middle).and (moves.leads middle)).mono
        fun _ _ ends => ⟨ends.1, left.trans ends.2⟩
    refine goesOn _ (solvent_bind (settle_solvent spares _ _ _ _) fun outcome => ?_)
      (moves_run_bind settles fun outcome => ?_)
    · split
      · exact solvent_bind solvent_clock fun now =>
          solvent_bind (log_solvent fun _ => sentRow_isSolvent _ _ _ _) fun _ => solvent_pure
      · exact solvent_bind BalanceLedger.refund_solvent fun _ =>
          solvent_bind solvent_clock fun now =>
            solvent_bind (log_solvent fun _ => isSolvent_ok _) fun _ => solvent_pure
    · split
      · exact moves_run_bind moves_clock fun now => moves_run_bind (log _) fun _ => moves_run_pure
      · exact moves_run_bind BalanceLedger.refund_notPoorer fun _ => moves_run_bind moves_clock
          fun now => moves_run_bind (log _) fun _ => moves_run_pure

end Send

/-- An action with which funds do not run out as long as they are so many cents, and that uses up no
more than these. -/
def Affordable (funds : World σ α → ℚ) (cents : ℕ) (action : Run σ α β) : Prop :=
  ∀ world, (cents : ℚ) / 100 ≤ funds world → Ends action world fun result after =>
    IsSolvent result ∧ funds world - cents / 100 ≤ funds after

namespace Send

variable {engine : Engine σ Exact} {campaign : Campaign Exact}

/-- A simulated message is free. -/
theorem message_affordable_of_test (target : TargetRecord) (channel : Channel) :
    Affordable (fun _ => 0) 0 (message engine campaign true target channel) := by
  have solvent : Solvent (message engine campaign true target channel) :=
    solvent_bind (solvent_pure? (Composed.isSolvent_of _ _ _ _)) fun _ => simulate_solvent _
  exact fun world _ => (solvent world).mono fun _ _ solvent => ⟨solvent, by simp⟩

/-- A message costs no more than its template. -/
theorem message_affordable (spares : engine.SparesFunds) {tariff : Tariff}
    (foresees : engine.settings.Foresees campaign.content tariff) (target : TargetRecord)
    (channel : Channel)
    (few : tariff.charge (engine.settings.segmentsOf campaign.content) channel <
      Decimal.countable) :
    Affordable (fun world => balanceOf world.store campaign.tenant)
      (tariff.charge (engine.settings.segmentsOf campaign.content) channel)
      (message engine campaign false target channel) := by
  intro world covered
  rw [message, ends_bind, ends_pure?]
  cases composes : Composed.of engine.settings campaign.content target.attributes channel with
  | error failure =>
    have solvent := Composed.isSolvent_of engine.settings campaign.content target.attributes channel
    rw [composes] at solvent
    exact ⟨solvent.error, sub_le_self _ (by positivity)⟩
  | ok composed =>
    obtain ⟨cents, cheaper, is⟩ := Composed.cost_le foresees composes few
    have costs : composed.cost.ratio = cents / 100 := by
      simpa only [Int.cast_natCast] using is.ratio_eq
    have less : (cents : ℚ) / 100 ≤
        tariff.charge (engine.settings.segmentsOf campaign.content) channel / 100 := by gcongr
    refine (sendLive_affords spares (by rw [costs]; positivity)
      (costs.trans_le (less.trans covered))).mono ?_
    rintro result after ⟨solvent, left⟩
    exact ⟨solvent, by linarith only [left, costs, less]⟩

end Send

end Herald
