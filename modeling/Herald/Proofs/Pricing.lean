import Herald.Proofs.Frame
import Herald.Proofs.Once
import Herald.Proofs.Totals

/-! # What messages are charged

A message is charged what it costs as it has been composed, and the ledger moves nothing below zero.
So with prices in whole cents, which may well be none, every row of the log costs whole cents.
-/

namespace Herald

variable {σ α : Type} [Amount α]

/-- Prices in whole cents. -/
structure Settings.InCents (settings : Settings) : Prop where
  sms : ∃ cents, settings.smsPrice.IsCents cents
  email : ∃ cents, settings.emailPrice.IsCents cents

theorem Settings.isCents_cents (number : ℕ) : (cents number).IsCents number :=
  ⟨rfl, by simp [cents, Decimal.ratio, div_eq_mul_inv]; norm_num⟩

theorem Composed.cost_inCents {settings : Settings} (prices : settings.InCents) {content : Content}
    {attributes : Fields} {channel : Channel} {composed : Composed}
    (made : Composed.of settings content attributes channel = .ok composed) :
    ∃ cents, composed.cost.IsCents cents := by
  cases channel with
  | sms =>
    obtain ⟨cents, is⟩ := prices.sms
    simp only [Composed.of, ofSms] at made
    split at made
    · rename_i cost costs
      cases made
      exact Decimal.mul_cents is costs
    · cases made
  | email =>
    cases made
    exact prices.email

/-- The ledger takes nothing below zero. -/
theorem BalanceLedger.deduct_nonneg (tenant : String) (amount : Decimal) (world : World σ α) :
    Ends (deduct tenant amount) world fun result _ => ∀ paid, result = .ok paid →
      0 ≤ amount.ratio := by
  rw [deduct, ends_bind, ends_pure?]
  cases moves : movable amount with
  | error failure => exact fun _ same => by cases same
  | ok moved =>
    obtain ⟨rfl, positive⟩ := movable_ok moves
    exact (leads_true _ _).mono fun _ _ _ _ _ => positive

namespace Send

variable {engine : Engine σ α}

/-- A message that is charged for is charged its cost. -/
theorem sendLive_charges (tenant : String) (channel : Channel) (cost : Decimal)
    (outgoing : Outgoing) (row : Moment → Int → Message α) (world : World σ α) :
    Ends (sendLive engine tenant channel cost outgoing row) world fun result _ =>
      ∀ charged, result = .ok (.charged charged) → charged = cost ∧ 0 ≤ cost.ratio := by
  rw [sendLive, ends_bind]
  refine Leads.mono (BalanceLedger.deduct_nonneg tenant cost world) ?_
  intro result paid positive
  rcases result with failure | ⟨_ | _⟩
  · exact fun _ same => by cases same
  · exact fun _ same => by cases same
  · have positive := positive true rfl
    simp only [Bool.not_true, Bool.false_eq_true, ↓reduceIte]
    rw [ends_bind]
    refine (leads_true _ _).mono fun result settled _ => ?_
    cases result with
    | error failure => exact fun _ same => by cases same
    | ok outcome =>
      dsimp only
      split
      · rw [ends_bind, ends_clock]
        dsimp only
        rw [ends_bind]
        refine (leads_true _ _).mono fun result logged _ => ?_
        cases result with
        | error failure => exact fun _ same => by cases same
        | ok value =>
          rintro charged same
          cases same
          exact ⟨rfl, positive⟩
      · rw [ends_bind]
        refine (leads_true _ _).mono fun result refunded _ => ?_
        cases result with
        | error failure => exact fun _ same => by cases same
        | ok value =>
          dsimp only
          rw [ends_bind, ends_clock]
          dsimp only
          rw [ends_bind]
          refine (leads_true _ _).mono fun result logged _ => ?_
          cases result <;> exact fun _ same => by cases same

theorem message_charges (campaign : Campaign α) (isTest : Bool) (target : TargetRecord)
    (channel : Channel) (world : World σ α) :
    Ends (message engine campaign isTest target channel) world fun result _ =>
      ∀ charged, result = .ok (.charged charged) → 0 ≤ charged.ratio ∧
        ∃ composed, Composed.of engine.settings campaign.content target.attributes channel =
          .ok composed ∧ charged = composed.cost := by
  rw [message, ends_bind, ends_pure?]
  cases made : Composed.of engine.settings campaign.content target.attributes channel with
  | error failure => exact fun _ same => by cases same
  | ok composed =>
    dsimp only
    split
    · rw [simulate, ends_bind, ends_clock]
      dsimp only
      rw [ends_bind]
      refine (leads_true _ _).mono fun result logged _ => ?_
      cases result <;> exact fun _ same => by cases same
    · refine Leads.mono (sendLive_charges _ _ _ _ _ _) fun result after charges charged same => ?_
      obtain ⟨rfl, positive⟩ := charges charged same
      exact ⟨positive, composed, rfl, rfl⟩

end Send

/-! ## The log -/

/-- A log whose messages cost whole cents. -/
def Store.InCents (store : Store Exact) : Prop := ∀ row ∈ store.messages, row.InCents

theorem Store.InCents.of_messages {before after : Store Exact} (cents : before.InCents)
    (same : after.messages = before.messages) : after.InCents := by
  rw [InCents, same]
  exact cents

/-- A row that is charged for whole cents costs whole cents, and any other row costs nothing. -/
theorem Message.Records.inCents {row : Message Exact} {campaign : Campaign Exact}
    {target : TargetRecord} {channel : Channel} {sent : Sent}
    (records : row.Records campaign target channel sent)
    (charges : ∀ cost, sent = .charged cost → ∃ cents : ℕ, cost.IsCents cents) : row.InCents := by
  have cost_eq := records.cost_eq
  cases sent with
  | charged cost =>
    obtain ⟨cents, is⟩ := charges cost rfl
    exact ⟨cents, by rw [records.charged.2, is.ratio_eq, Int.cast_natCast]⟩
  | simulated => exact ⟨0, by rw [cost_eq]; simp⟩
  | rejected => exact ⟨0, by rw [cost_eq]; simp⟩

theorem Decimal.IsCents.toNat {amount : Decimal} {cents : ℤ} (is : amount.IsCents cents)
    (positive : 0 ≤ amount.ratio) : ∃ cents : ℕ, amount.IsCents cents := by
  have whole : 0 ≤ cents := by
    rw [is.ratio_eq] at positive
    have whole : (0 : ℚ) ≤ cents := by linarith
    exact_mod_cast whole
  exact ⟨cents.toNat, is.finite, by rw [is.ratio_eq, Int.toNat_of_nonneg whole]⟩

namespace OperatedEngine

variable (engine : OperatedEngine σ Exact)

/-- A message leaves a log of whole cents behind. -/
theorem message_inCents (prices : engine.settings.InCents) (campaign : Campaign Exact)
    (isTest : Bool) (target : TargetRecord) (channel : Channel) :
    Moves (Keeps Store.InCents) (Send.message engine.toEngine campaign isTest target channel).run := by
  refine moves_iff.mpr fun world => ?_
  refine ((Send.message_ends (Pass.keepsLog engine) campaign isTest target channel world).and
    (Send.message_charges campaign isTest target channel world)).mono ?_
  rintro result after ⟨logs, charges⟩ cents
  cases result with
  | error failure => exact cents.of_messages logs
  | ok sent =>
    obtain ⟨row, records, logged⟩ := logs
    have added : row.InCents := records.inCents fun cost same => by
      subst same
      obtain ⟨positive, composed, made, rfl⟩ := charges cost rfl
      obtain ⟨count, is⟩ := Composed.cost_inCents prices made
      exact is.toNat positive
    intro other member
    rw [logged] at member
    rcases List.mem_append.mp member with old | new
    · exact cents other old
    · exact List.mem_singleton.mp new ▸ added

/-- Passes leave a log of whole cents behind. -/
theorem respects_inCents (prices : engine.settings.InCents) :
    engine.toEngine.Respects (Keeps Store.InCents) where
  message := engine.message_inCents prices
  cooldown := record_moves fun _ _ cents => cents
  life _ _ _ _ _ cents := cents
  tally _ _ _ := Lifecycle.apply_moves fun _ _ _ cents => cents
  beforeFinish world cents := cents.of_messages
    (view_of_standing (fun _ => rfl) (engine.beforeFinish_operated world).standing)
  journal _ _ cents := cents

end OperatedEngine

end Herald
