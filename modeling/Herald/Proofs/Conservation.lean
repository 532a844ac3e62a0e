import Herald.Proofs.Funds
import Herald.Proofs.History
import Herald.Proofs.Report
import Herald.Proofs.Stages
import Herald.Proofs.Sums
import Herald.Proofs.Table

/-! # Conservation of funds

Whatever happens in a history, a tenant has left what it was credited without what its messages
cost, and it never had less than nothing. A message pays before its provider is asked; every way
out of it, a failure that ends the pass included, either logs the message at what was paid or gives
the payment back.
-/

namespace Herald

open BalanceLedger

variable {σ α : Type}

/-- The funds after an action, in terms of those before it. -/
def Funded (gain : String → ℚ) (before after : World σ Exact) : Prop :=
  Sound before.store → Grown gain before.store after.store

instance : IsPreorder (World σ Exact) (Funded 0) where
  refl _ := Grown.refl
  trans _ _ _ first second sound := by
    have grown := first sound
    simpa only [add_zero] using grown.trans (second grown.sound)

/-- Stores that keep the same books. -/
structure SameBooks (before after : Store α) : Prop where
  created : after.created = before.created
  balances : after.balances = before.balances
  messages : after.messages = before.messages

theorem SameBooks.of_standing {before after : Store α} (same : after.standing = before.standing) :
    SameBooks before after where
  created := view_of_standing (fun _ => rfl) same
  balances := view_of_standing (fun _ => rfl) same
  messages := view_of_standing (fun _ => rfl) same

theorem SameBooks.grown {before after : Store Exact} (same : SameBooks before after)
    (sound : Sound before) : Grown 0 before after :=
  Grown.of_books sound same.created same.balances same.messages

/-- An amount that has been taken from a tenant and can be given back. -/
structure Debt (tenant : String) (amount : Decimal) (before after : Store Exact) : Prop where
  positive : 0 ≤ amount.ratio
  finite : amount.isFinite = true
  movable_eq : movable amount = .ok amount
  repayable : amount.isZero = true ∨ (row? after tenant).isSome
  grown : Grown (Pi.single tenant (-amount.ratio)) before after

/-- What a provider reports can be stored. -/
theorem Outcome.IsPriced.stored {outcome : Outcome} (priced : outcome.IsPriced) :
    ∃ stored : Option Exact, outcome.cost.mapM BalanceLedger.stored = .ok stored := by
  cases reported : outcome.cost with
  | none => exact ⟨none, rfl⟩
  | some cost =>
    refine ⟨some ⟨cost.ratio, []⟩, ?_⟩
    rw [Option.mapM_some, Exact.stored_of_finite (priced cost reported)]
    rfl

variable {tenant : String} {amount : Decimal} {world : World σ Exact}

/-- A debt stays the same while the books do. -/
theorem Debt.of_books {before middle after : Store Exact} (debt : Debt tenant amount before middle)
    (same : SameBooks middle after) : Debt tenant amount before after where
  positive := debt.positive
  finite := debt.finite
  movable_eq := debt.movable_eq
  repayable := by
    have rows : row? after tenant = row? middle tenant := by simp only [row?, same.balances]
    exact rows ▸ debt.repayable
  grown := by simpa only [add_zero] using debt.grown.trans (same.grown debt.grown.sound)

/-! ## The ledger -/

/-- A deduction that says yes leaves a debt, and any other one leaves the funds alone. -/
theorem deduct_grown (sound : Sound world.store) :
    Ends (deduct tenant amount) world fun result after =>
      match result with
      | .ok true => Debt tenant amount world.store after.store
      | _ => Grown 0 world.store after.store := by
  rw [deduct, ends_bind, ends_pure?]
  cases movable_eq : movable amount with
  | error failure => exact Grown.refl sound
  | ok moved =>
    obtain ⟨rfl, positive⟩ := movable_ok movable_eq
    dsimp only
    by_cases zero : moved.isZero = true
    · rw [if_pos zero, ends_pure]
      refine ⟨positive, Decimal.isFinite_of_isZero zero, movable_eq, .inl zero, ?_⟩
      rw [Decimal.ratio_of_isZero zero, neg_zero, Pi.single_zero]
      exact Grown.refl sound
    · rw [if_neg zero, ends_commit sound.created]
      cases wrote : deductIn tenant moved world.store with
      | error failure => exact Grown.refl sound
      | ok written =>
        obtain ⟨paid, store⟩ := written
        have grown := deductIn_grown sound wrote
        cases paid with
        | false => exact grown
        | true =>
          obtain ⟨finite, known, grown⟩ := grown
          exact ⟨positive, finite, movable_eq, .inr known, grown⟩

/-- A debt can always be given back. -/
theorem refund_grown {before : Store Exact} (debt : Debt tenant amount before world.store) :
    Ends (refund tenant amount) world fun result after =>
      result = .ok () ∧ Grown 0 before after.store := by
  have sound := debt.grown.sound
  rw [refund, ends_bind, ends_pure?, debt.movable_eq]
  dsimp only
  by_cases zero : amount.isZero = true
  · rw [if_pos zero, ends_pure]
    refine ⟨rfl, ?_⟩
    simpa only [Decimal.ratio_of_isZero zero, neg_zero, Pi.single_zero] using debt.grown
  · rw [if_neg zero, ends_commit sound.created]
    obtain ⟨store, wrote, grown⟩ :=
      addIn_grown sound debt.positive debt.finite (debt.repayable.resolve_left zero)
    rw [wrote]
    refine ⟨rfl, ?_⟩
    have back := debt.grown.trans grown
    rwa [← Pi.single_add, neg_add_cancel, Pi.single_zero] at back

/-- What a credit adds to the funds of each tenant: its amount, if it is confirmed. -/
def gained (tenant : String) (amount : Decimal) : Except Failure Decimal → String → ℚ
  | .ok _ => Pi.single tenant amount.ratio
  | .error _ => 0

theorem credit_grown (sound : Sound world.store) :
    Ends (credit tenant amount) world fun result after =>
      Grown (gained tenant amount result) world.store after.store := by
  rw [credit, ends_bind, ends_pure?]
  cases movable_eq : movable amount with
  | error failure => exact Grown.refl sound
  | ok moved =>
    obtain ⟨rfl, positive⟩ := movable_ok movable_eq
    dsimp only
    rw [ends_bind, ends_commit sound.created]
    cases wrote : creditIn tenant moved world.store with
    | error failure => exact Grown.refl sound
    | ok written =>
      have grown := creditIn_grown sound positive wrote
      exact (ends_query grown.sound.created).mpr grown

/-! ## Messages -/

namespace Send

variable (engine : OperatedEngine σ Exact)

theorem deliver_books (channel : Channel) (outgoing : Outgoing) :
    Ends (deliver engine.toEngine channel outgoing) world fun result after =>
      SameBooks world.store after.store ∧
        ∀ outcome, result = .ok outcome → outcome.IsPriced := by
  have still : SameBooks world.store world.store := ⟨rfl, rfl, rfl⟩
  rw [deliver]
  split
  · exact ⟨still, fun outcome same => Except.ok.inj same ▸ Outcome.isPriced_simulated⟩
  · rw [ends_bind, ends_pure?]
    cases (engine.provider channel).request outgoing with
    | error failure => exact ⟨still, fun _ same => by cases same⟩
    | ok request =>
      dsimp only
      rw [ends_bind]
      refine Leads.mono (engine.exchange_ends request world) ?_
      intro result after standing
      have same := SameBooks.of_standing standing
      cases result with
      | error failure => exact ⟨same, fun _ other => by cases other⟩
      | ok reply => exact ends_pure?.mpr ⟨same, fun _ read => Provider.isPriced_outcome read⟩

/-- The way from a payment to an outcome keeps the debt, and a failure on it gives it back. -/
theorem settle_debt {before : Store Exact} (debt : Debt tenant amount before world.store)
    (channel : Channel) (outgoing : Outgoing) :
    Ends (settle engine.toEngine tenant amount channel outgoing) world fun result after =>
      match result with
      | .ok outcome => Debt tenant amount before after.store ∧ outcome.IsPriced
      | .error _ => Grown 0 before after.store := by
  rw [settle, ends_bind, ends_attempt]
  refine Leads.mono (deliver_books engine channel outgoing) ?_
  rintro result after ⟨same, priced⟩
  have debt := debt.of_books same
  cases result with
  | ok outcome => exact ⟨debt, priced outcome rfl⟩
  | error failure =>
    dsimp only
    split
    · exact ⟨debt, Outcome.isPriced_of_free rfl⟩
    · exact ⟨debt, Outcome.isPriced_of_free rfl⟩
    · rw [ends_bind]
      refine Leads.mono (refund_grown debt) ?_
      rintro result after ⟨rfl, grown⟩
      exact grown

/-- A row that is logged brings its cost into what its tenant has spent. -/
theorem log_grown {before : Store Exact} (gain : String → ℚ) (cost : ℚ) (row : Int → Message Exact)
    {after : Except Failure Unit → World σ Exact → Prop}
    {message : Int → Except Failure (Message Exact)}
    (logs : ∀ id, message id = .ok (row id))
    (costs : ∀ id, (row id).tenant = tenant ∧ (row id).cost.value = cost)
    (grown : Grown gain before world.store)
    (holds : ∀ world : World σ Exact,
      Grown (gain + Pi.single tenant cost) before world.store → after (.ok ()) world) :
    Ends (Run.commit (logIn message)) world after := by
  rw [ends_commit grown.sound.created]
  simp only [logIn, logs, bind, Except.bind, pure, Except.pure]
  obtain ⟨rfl, rfl⟩ := costs (nextId (world.store.messages.map Message.id))
  exact holds _ (grown.trans (Grown.log grown.sound _))

/-- A message is logged at what was paid for it, or what was paid is given back. -/
theorem sendLive_grown (sound : Sound world.store) (channel : Channel) (outgoing : Outgoing)
    {row : Moment → Int → Message Exact}
    (rows : ∀ now id, (row now id).tenant = tenant ∧ (row now id).cost.value = 0) :
    Ends (sendLive engine.toEngine tenant channel amount outgoing row) world
      fun _ after => Grown 0 world.store after.store := by
  rw [sendLive, ends_bind]
  refine Leads.mono (deduct_grown sound) ?_
  intro result paid debt
  rcases result with failure | ⟨_ | _⟩
  · exact debt
  · exact debt
  · simp only [Bool.not_true, Bool.false_eq_true, ↓reduceIte]
    rw [ends_bind]
    refine Leads.mono (settle_debt engine debt channel outgoing) ?_
    intro result settled left
    cases result with
    | error failure => exact left
    | ok outcome =>
      obtain ⟨debt, priced⟩ := left
      dsimp only
      split
      · rw [ends_bind, ends_clock]
        dsimp only
        rw [ends_bind]
        obtain ⟨providerCost, stored⟩ := priced.stored
        refine log_grown (Pi.single tenant (-amount.ratio)) amount.ratio
          (fun id => { row settled.now id with
            status := .sent, cost := ⟨amount.ratio, []⟩, providerCost
            providerId := outcome.providerId, sentAt := some settled.now })
          (fun id => ?_) (fun id => ⟨(rows _ id).1, rfl⟩) debt.grown fun after grown => ?_
        · simp only [sentRow, Exact.stored_of_finite debt.finite, stored, bind, Except.bind, pure,
            Except.pure]
        · rwa [← Pi.single_add, neg_add_cancel, Pi.single_zero] at grown
      · rw [ends_bind]
        refine Leads.mono (refund_grown debt) ?_
        rintro result refunded ⟨rfl, grown⟩
        dsimp only
        rw [ends_bind, ends_clock]
        dsimp only
        rw [ends_bind]
        refine log_grown 0 0
          (fun id => { row refunded.now id with error := outcome.errorMessage })
          (fun id => rfl) (fun id => rows _ id) grown fun after grown => ends_pure.mpr ?_
        simpa only [Pi.single_zero, add_zero] using grown

/-- A message leaves the funds of every tenant as they are. -/
theorem message_funded (campaign : Campaign Exact) (isTest : Bool) (target : TargetRecord)
    (channel : Channel) :
    Moves (Funded 0) (message engine.toEngine campaign isTest target channel).run := by
  refine fun world sound => ?_
  change Ends (message engine.toEngine campaign isTest target channel) world
    fun _ after => Grown 0 world.store after.store
  rw [message, ends_bind, ends_pure?]
  cases Composed.of engine.settings campaign.content target.attributes channel with
  | error failure => exact Grown.refl sound
  | ok composed =>
    dsimp only
    split
    · rw [simulate, ends_bind, ends_clock]
      dsimp only
      rw [ends_bind]
      refine log_grown 0 0 _ (fun id => rfl)
        (fun id => ⟨rfl, rfl⟩) (Grown.refl sound) fun after grown => ends_pure.mpr ?_
      simpa only [Pi.single_zero, add_zero] using grown
    · exact sendLive_grown engine sound channel _ fun now id => ⟨rfl, rfl⟩

end Send

/-! ## Histories -/

theorem funded_of_books {before after : World σ Exact} (same : SameBooks before.store after.store) :
    Funded 0 before after := same.grown

theorem funded_allows : Lifecycle.Allows (Funded 0 : World σ Exact → World σ Exact → Prop) :=
  fun _ _ _ _ _ => funded_of_books ⟨rfl, rfl, rfl⟩

/-- No step of a pass changes the funds of a tenant. -/
theorem OperatedEngine.respects_funded (engine : OperatedEngine σ Exact) :
    engine.toEngine.Respects (Funded 0) where
  message := Send.message_funded engine
  cooldown := record_moves fun _ _ => funded_of_books ⟨rfl, rfl, rfl⟩
  life := funded_allows
  tally _ _ _ := Lifecycle.apply_moves fun _ _ _ => funded_of_books ⟨rfl, rfl, rfl⟩
  beforeFinish world := funded_of_books (.of_standing (engine.beforeFinish_operated world).standing)
  journal _ _ := funded_of_books ⟨rfl, rfl, rfl⟩

theorem History.respects_funded :
    History.Respects (Funded 0 : World σ Exact → World σ Exact → Prop) where
  pass engine := Pass.execute_moves engine.respects_funded
  life := funded_allows
  create _ _ := Lifecycle.create_moves fun _ _ _ => funded_of_books ⟨rfl, rfl, rfl⟩
  define tenant target spec := Registry.define_moves fun world now => funded_of_books (by
    unfold Registry.put
    split <;> exact ⟨rfl, rfl, rfl⟩)
  upsert schema _ _ _ := Target.upsert_moves fun world now target store _ wrote =>
    funded_of_books (by
      obtain ⟨targets, rfl, _⟩ := Target.put_ids wrote
      cases schema.target <;> exact ⟨rfl, rfl, rfl⟩)
  cleanup _ := CooldownLedger.cleanup_moves fun _ _ => funded_of_books ⟨rfl, rfl, rfl⟩
  elapse _ _ _ := funded_of_books ⟨rfl, rfl, rfl⟩

/-- What an event credits to each tenant. -/
def Event.gain (world : World σ Exact) : Event σ Exact → String → ℚ
  | .credit tenant amount =>
    gained tenant amount ((BalanceLedger.credit tenant amount).run.run world).1
  | _ => 0

/-- What a history has credited to each tenant. -/
def credited (world : World σ Exact) : List (Event σ Exact) → String → ℚ
  | [] => 0
  | event :: rest => event.gain world + credited (event.after world) rest

theorem Event.funded (world : World σ Exact) (event : Event σ Exact) :
    Funded (event.gain world) world (event.after world) := by
  cases event with
  | credit tenant amount => exact fun sound => credit_grown sound
  | _ => exact History.respects_funded.event world _ fun _ _ same => by cases same

/-- Funds grow by what is credited and by nothing else. -/
theorem World.funded (world : World σ Exact) (events : List (Event σ Exact)) :
    Funded (credited world events) world (world.after events) := by
  induction events generalizing world with
  | nil => exact Grown.refl
  | cons event rest ih =>
    intro sound
    have grown := event.funded world sound
    exact grown.trans (ih (event.after world) grown.sound)

/-- A balance never forgets what it held. -/
theorem World.remembered {world : World σ Exact} (sound : Sound world.store)
    (events : List (Event σ Exact)) :
    Remembered world.store.balances (world.after events).store.balances :=
  (world.funded events sound).remembered

theorem sound_opened (now : Moment) (outside : σ) :
    Sound (World.opened now outside : World σ Exact).store :=
  ⟨rfl, List.nodup_nil, fun _ member => by cases member⟩

end Herald
