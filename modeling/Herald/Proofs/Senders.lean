import Herald.Proofs.Charges
import Herald.Proofs.Conservation

/-! # Replies

What providers reply may depend on everything that they have been asked before. With such providers
nothing happens around a pass but that they are asked, so `tell` can say what comes of a live
message that its tenant can pay for: how it ends, what is asked for it, and the row that it leaves.
-/

namespace Herald

open BalanceLedger

variable {σ α : Type}

/-- How providers reply to a request, behind the requests that have been made before. -/
def Replies := List Request → Request → Reply

/-- A provider is asked. The request is kept, and nothing else happens. -/
def Replies.exchange (replies : Replies) (request : Request) : Run (List Request) α Reply := do
  let world ← get
  set { world with outside := world.outside ++ [request] }
  return replies world.outside request

theorem Replies.ends_exchange {replies : Replies} {request : Request}
    {world : World (List Request) α} {after : Except Failure Reply → World (List Request) α → Prop} :
    Ends (replies.exchange request) world after ↔ after (.ok (replies world.outside request))
      { world with outside := world.outside ++ [request] } := Iff.rfl

/-- An engine whose providers reply in a given way. -/
def Engine.replying (engine : Engine (List Request) α) (replies : Replies) :
    OperatedEngine (List Request) α where
  settings := engine.settings
  sms := engine.sms
  email := engine.email
  batchSize := engine.batchSize
  exchange := replies.exchange
  beforeFinish := return ()
  exchange_operated _ _ := .single (.elapse rfl)
  beforeFinish_operated _ := .refl

/-- A finite amount that is not below zero is bounded as the number that it writes. -/
theorem Decimal.isWithin_of_ratio {amount : Decimal} {limit : ℤ} (finite : amount.isFinite = true)
    (positive : 0 ≤ amount.ratio) (le : amount.ratio ≤ 10 ^ limit) : amount.IsWithin limit := by
  cases amount with
  | infinite negative => cases finite
  | nan negative signaling payload => cases finite
  | finite negative coefficient exponent =>
    have power : (0 : ℚ) < 10 ^ exponent := by positivity
    cases negative with
    | false => exact ⟨nofun, by simpa [ratio] using le⟩
    | true =>
      have none : (coefficient : ℚ) * 10 ^ exponent = 0 := by
        have above : (0 : ℚ) ≤ coefficient * 10 ^ exponent := by positivity
        refine le_antisymm ?_ above
        simpa [ratio] using positive
      refine ⟨fun _ => ?_, ?_⟩
      · exact_mod_cast (mul_eq_zero.mp none).resolve_right power.ne'
      · rw [none]
        positivity

/-- A finite amount writes zero only if it is zero. -/
theorem Decimal.isZero_of_ratio {amount : Decimal} (finite : amount.isFinite = true)
    (zero : amount.ratio = 0) : amount.isZero = true := by
  cases amount with
  | infinite negative => cases finite
  | nan negative signaling payload => cases finite
  | finite negative coefficient exponent =>
    have power : (10 : ℚ) ^ exponent ≠ 0 := zpow_ne_zero _ (by norm_num)
    have sign : (if negative then (-1 : ℚ) else 1) ≠ 0 := by cases negative <;> norm_num
    have none : (coefficient : ℚ) = 0 := by
      simpa only [ratio, mul_eq_zero, sign, power, false_or, or_false] using zero
    rw [Decimal.isZero, beq_iff_eq]
    exact_mod_cast none

/-- Two worlds that differ in balances alone. -/
def Rebalanced (before after : World σ α) : Prop :=
  ∃ balances, after = { before with store := { before.store with balances } }

instance : IsPreorder (World σ α) Rebalanced where
  refl world := ⟨world.store.balances, rfl⟩
  trans := by
    rintro _ _ _ ⟨_, rfl⟩ ⟨balances, rfl⟩
    exact ⟨balances, rfl⟩

theorem rebalanced_allows [Amount α] :
    BalanceLedger.Allows (Rebalanced : World σ α → World σ α → Prop) :=
  fun _ balances => ⟨balances, rfl⟩

namespace Send

/-! ## What is heard of a message -/

/-- The outcome of a message, with transport failures among the failed ones. -/
def concluded : Except Failure Outcome → Except Failure Outcome
  | .ok outcome => .ok outcome
  | .error failure =>
    match failure with
    | .transportTimeout _ _ => .ok (.failed failure.text "timeout")
    | .transportFailure _ _ => .ok (.failed failure.text "transport_error")
    | failure => .error failure

/-- The request for a message on a channel. -/
def request (engine : Engine σ α) (channel : Channel) (outgoing : Outgoing) :
    Except Failure Request := (engine.provider channel).request outgoing

/-- What is heard of a message on a channel behind some requests. -/
def heard (engine : Engine (List Request) α) (replies : Replies) (channel : Channel)
    (outgoing : Outgoing) (history : List Request) : Except Failure Outcome :=
  concluded ((request engine channel outgoing).bind fun request =>
    (engine.provider channel).outcome (replies history request))

variable {world : World (List Request) Exact} (engine : Engine (List Request) Exact)
  (replies : Replies) {tenant : String} {amount : Decimal} {channel : Channel} {outgoing : Outgoing}

/-- Asking a provider changes nothing but what it has been asked. -/
theorem deliver_heard (live : engine.settings.testMode = false) :
    Ends (deliver (engine.replying replies).toEngine channel outgoing) world fun result after =>
      concluded result = heard engine replies channel outgoing world.outside ∧ after = { world with
        outside := world.outside ++ (request engine channel outgoing).toOption.toList } := by
  have isLive : (engine.replying replies).settings.testMode = false := live
  have provider : (engine.replying replies).provider channel = engine.provider channel := by
    cases channel <;> rfl
  rw [deliver]
  simp only [isLive, Bool.false_eq_true, ↓reduceIte]
  rw [provider, ends_bind, ends_pure?]
  unfold heard request
  cases (engine.provider channel).request outgoing with
  | error failure => exact ⟨rfl, by simp [Except.toOption]⟩
  | ok request =>
    dsimp only
    rw [ends_bind]
    refine Replies.ends_exchange.mpr ?_
    exact ends_pure?.mpr ⟨rfl, rfl⟩

/-- A message that has been paid for ends in what is heard of it, or what was paid is given back. -/
theorem settle_heard (live : engine.settings.testMode = false) {before : Store Exact}
    (debt : Debt tenant amount before world.store) :
    Ends (settle (engine.replying replies).toEngine tenant amount channel outgoing) world
      fun result after => result = heard engine replies channel outgoing world.outside ∧
        Rebalanced { world with
          outside := world.outside ++ (request engine channel outgoing).toOption.toList } after := by
  rw [settle, ends_bind, ends_attempt]
  refine ((deliver_heard engine replies live).and
    (deliver_books (engine.replying replies) channel outgoing)).mono ?_
  rintro result middle ⟨⟨concludes, asked⟩, same, -⟩
  rw [← asked, ← concludes]
  have debt := debt.of_books same
  cases result with
  | ok outcome => exact ⟨rfl, refl middle⟩
  | error failure =>
    have repays : ∀ failure, Ends (do refund tenant amount; throw failure : Run _ Exact Outcome)
        middle fun result after => result = .error failure ∧ Rebalanced middle after := by
      intro failure
      rw [ends_bind]
      refine ((refund_grown debt).and
        ((refund_moves rebalanced_allows tenant amount).leads middle)).mono ?_
      rintro _ after ⟨⟨rfl, -⟩, rebalanced⟩
      exact ⟨rfl, rebalanced⟩
    cases failure <;> first | exact ⟨rfl, refl middle⟩ | exact repays _

/-! ## What comes of a message -/

/-- An amount that the ledger can move. -/
def chargeable (amount : Decimal) : Except Failure Decimal := do
  let amount ← movable amount
  if amount.isFinite then return amount else throw .refusedRow

theorem chargeable_ok {cost : Decimal} (ok : chargeable amount = .ok cost) :
    cost = amount ∧ amount.isFinite = true ∧ 0 ≤ amount.ratio := by
  obtain ⟨moved, moves, settled⟩ := ok_of_bind ok
  obtain ⟨rfl, positive⟩ := movable_ok moves
  by_cases finite : moved.isFinite = true
  · rw [if_pos finite] at settled
    exact ⟨(Except.ok.inj settled).symm, finite, positive⟩
  · rw [if_neg finite] at settled
    cases settled

/-- What can be charged for and is covered is deducted. -/
theorem deduct_covered (sound : Sound world.store)
    (covers : amount.ratio ≤ balanceOf world.store tenant) :
    Ends (deduct tenant amount) world fun result _ =>
      result = (chargeable amount).map fun _ => true := by
  rw [deduct, ends_bind, ends_pure?, chargeable]
  cases moves : movable amount with
  | error failure => exact rfl
  | ok moved =>
    obtain ⟨rfl, positive⟩ := movable_ok moves
    dsimp only
    by_cases zero : moved.isZero = true
    · rw [if_pos zero, ends_pure]
      simp only [bind, Except.bind, Decimal.isFinite_of_isZero zero, ↓reduceIte]
      rfl
    · rw [if_neg zero, ends_commit sound.created]
      cases finite : moved.isFinite with
      | false =>
        simp only [deductIn, Exact.stored_of_infinite finite, bind, Except.bind, finite,
          Bool.false_eq_true, ↓reduceIte]
        rfl
      | true =>
        obtain ⟨row, found, enough⟩ : ∃ row, row? world.store tenant = some row ∧
            moved.ratio ≤ row.amount.value := by
          unfold balanceOf at covers
          cases found : row? world.store tenant with
          | some row => exact ⟨row, rfl, by simpa [found] using covers⟩
          | none =>
            have nothing : moved.ratio ≤ 0 := by simpa [found] using covers
            exact absurd (Decimal.isZero_of_ratio finite (le_antisymm nothing positive)) zero
        have named : (row.tenant == tenant) = true := by simpa using List.find?_some found
        have paid : (world.store.balances.countP fun row => row.tenant == tenant &&
            Amount.covers row.amount ⟨moved.ratio, []⟩) ≠ 0 := by
          refine Nat.pos_iff_ne_zero.mp (List.countP_pos_iff.mpr
            ⟨row, List.mem_of_find?_eq_some found, ?_⟩)
          rw [named, Bool.true_and, Exact.covers_iff]
          exact enough
        simp only [deductIn, Exact.stored_of_finite finite, bind, Except.bind, Exact.sub?_eq,
          change_total, pure, Except.pure, finite, ↓reduceIte]
        rw [bne_iff_ne.mpr paid]
        rfl

/-- What comes of a message: how it ends, what is asked for it, and the rows that it leaves. -/
structure Told where
  result : Except Failure Sent
  asked : Option Request
  rows : List (Message Exact)

/-- The row of a message with the outcome that has been heard of it. -/
def rowOf (blank : Message Exact) (cost : Decimal) (outcome : Outcome) (now : Moment) :
    Message Exact :=
  if outcome.success then
    { blank with
      status := .sent, cost := ⟨cost.ratio, []⟩
      providerCost := outcome.cost.map fun cost => ⟨cost.ratio, []⟩
      providerId := outcome.providerId, sentAt := some now }
  else { blank with error := outcome.errorMessage }

theorem rowOf_cost (blank : Message Exact) (cost : Decimal) (outcome : Outcome) (now : Moment) :
    (rowOf blank cost outcome now).cost.value =
      if outcome.success then cost.ratio else blank.cost.value := by
  unfold rowOf
  split <;> rfl

/-- From one world to another the requests and the rows of a message have been added, and nothing
but balances has changed besides. -/
def Told.Leaves (told : Told) (before after : World (List Request) Exact) : Prop :=
  ∃ balances, after = { before with
    outside := before.outside ++ told.asked.toList
    store := { before.store with messages := before.store.messages ++ told.rows, balances } }

/-- What comes of a message whose cost is covered, behind some requests. -/
def tellLive (channel : Channel) (amount : Decimal) (outgoing : Outgoing) (blank : Message Exact)
    (now : Moment) (history : List Request) : Told :=
  match chargeable amount with
  | .error failure => ⟨.error failure, none, []⟩
  | .ok cost =>
    let asked := (request engine channel outgoing).toOption
    match heard engine replies channel outgoing history with
    | .error failure => ⟨.error failure, asked, []⟩
    | .ok outcome =>
      ⟨.ok (if outcome.success then .charged cost else .rejected), asked,
        [rowOf blank cost outcome now]⟩

/-- What comes of a live message of a campaign whose cost is covered, as the row of an id. -/
def tell (campaign : Campaign Exact) (target : TargetRecord) (channel : Channel) (now : Moment)
    (id : Int) (history : List Request) : Told :=
  match Composed.of engine.settings campaign.content target.attributes channel with
  | .error failure => ⟨.error failure, none, []⟩
  | .ok composed =>
    let recipient := Text.trimmed ((target.contact channel).getD "")
    tellLive engine replies channel composed.cost
      (composed.outgoing campaign.content recipient channel)
      (row campaign target channel composed recipient false now id) now history

/-- What a message may cost. -/
def due (settings : Settings) (campaign : Campaign α) (target : TargetRecord) (channel : Channel) :
    ℚ :=
  match Composed.of settings campaign.content target.attributes channel with
  | .ok composed => max composed.cost.ratio 0
  | .error _ => 0

theorem sentRow_eq {blank : Message Exact} {cost : Decimal} {outcome : Outcome} {now : Moment}
    (finite : cost.isFinite = true) (priced : outcome.IsPriced) (success : outcome.success = true) :
    sentRow blank cost outcome now = .ok (rowOf blank cost outcome now) := by
  unfold sentRow rowOf
  rw [if_pos success, Exact.stored_of_finite finite]
  cases reported : outcome.cost with
  | none => rfl
  | some number =>
    simp only [Option.mapM_some, Exact.stored_of_finite (priced number reported)]
    rfl

omit engine replies in
/-- The row of a message is added behind the log, if it can be made. -/
theorem log_tells {row : Moment → Int → Except Failure (Message Exact)} {sent : Sent}
    (created : world.store.created = true) :
    Ends (do let now ← Run.clock; Run.commit (logIn (row now)); return sent : Run _ Exact Sent)
      world fun result after =>
        match row world.now (nextId (world.store.messages.map Message.id)) with
        | .ok made => result = .ok sent ∧ after = { world with
            store := { world.store with messages := world.store.messages ++ [made] } }
        | .error failure => result = .error failure ∧ after = world := by
  rw [ends_bind, ends_clock]
  dsimp only
  rw [ends_bind, ends_commit created, logIn]
  cases row world.now (nextId (world.store.messages.map Message.id)) with
  | ok made => exact ⟨rfl, rfl⟩
  | error failure => exact ⟨rfl, rfl⟩

/-- A message that has been paid for is logged with what is heard of it. -/
theorem sendLive_tells (live : engine.settings.testMode = false) (sound : Sound world.store)
    (covers : amount.ratio ≤ balanceOf world.store tenant) (blank : Moment → Int → Message Exact) :
    Ends (sendLive (engine.replying replies).toEngine tenant channel amount outgoing blank) world
      fun result after =>
        let told := tellLive engine replies channel amount outgoing
          (blank world.now (nextId (world.store.messages.map Message.id))) world.now world.outside
        result = told.result ∧ told.Leaves world after := by
  rw [sendLive, ends_bind]
  refine ((deduct_covered sound covers).and ((deduct_grown sound).and
    ((deduct_moves rebalanced_allows tenant amount).leads world))).mono ?_
  rintro _ _ ⟨rfl, debt, balances, rfl⟩
  unfold tellLive
  cases charges : chargeable amount with
  | error failure => exact ⟨rfl, balances, by simp only [Option.toList_none, List.append_nil]⟩
  | ok cost =>
    obtain ⟨rfl, finite, -⟩ := chargeable_ok charges
    rw [charges] at debt
    simp only [Except.map, Bool.not_true, Bool.false_eq_true, ↓reduceIte]
    rw [ends_bind]
    refine ((settle_heard engine replies live debt).and
      (settle_debt (engine.replying replies) debt channel outgoing)).mono ?_
    rintro _ _ ⟨⟨rfl, balances, rfl⟩, debt⟩
    dsimp only at debt ⊢
    cases hears : heard engine replies channel outgoing world.outside with
    | error failure => exact ⟨rfl, balances, by simp only [List.append_nil]⟩
    | ok outcome =>
      rw [hears] at debt
      obtain ⟨debt, priced⟩ := debt
      dsimp only
      split
      · rename_i success
        refine (log_tells ?_).mono fun _ _ logged => ?_
        · exact sound.created
        dsimp only at logged
        rw [sentRow_eq finite priced success] at logged
        obtain ⟨rfl, rfl⟩ := logged
        exact ⟨rfl, balances, rfl⟩
      · rename_i failure
        rw [ends_bind]
        refine ((refund_grown debt).and
          ((refund_moves rebalanced_allows tenant cost).leads _)).mono ?_
        rintro _ _ ⟨⟨rfl, -⟩, balances, rfl⟩
        dsimp only
        refine (log_tells ?_).mono ?_
        · exact sound.created
        rintro _ _ ⟨rfl, rfl⟩
        exact ⟨rfl, balances, by rw [rowOf, if_neg failure]⟩

variable {campaign : Campaign Exact} {target : TargetRecord}

/-- A message that its tenant can pay for comes to what `tell` says. -/
theorem message_tells (live : engine.settings.testMode = false) (sound : Sound world.store)
    (covers : due engine.settings campaign target channel ≤
      balanceOf world.store campaign.tenant) :
    Ends (message (engine.replying replies).toEngine campaign false target channel) world
      fun result after =>
        let told := tell engine replies campaign target channel world.now
          (nextId (world.store.messages.map Message.id)) world.outside
        result = told.result ∧ told.Leaves world after := by
  rw [message, ends_bind, ends_pure?]
  rw [show (engine.replying replies).settings = engine.settings from rfl]
  unfold due at covers
  unfold tell
  cases composes : Composed.of engine.settings campaign.content target.attributes channel with
  | error failure =>
    exact ⟨rfl, world.store.balances, by simp only [Option.toList_none, List.append_nil]⟩
  | ok composed =>
    rw [composes] at covers
    dsimp only
    rw [if_neg Bool.false_ne_true]
    exact sendLive_tells engine replies live sound ((le_max_left _ _).trans covers) _

theorem due_nonneg (settings : Settings) (campaign : Campaign α) (target : TargetRecord)
    (channel : Channel) : 0 ≤ due settings campaign target channel := by
  unfold due
  split
  · exact le_max_right _ _
  · exact le_refl 0

/-- The rows of a message cost no more than what is due for it. -/
theorem spent_tell_le (campaign : Campaign Exact) (target : TargetRecord) (channel : Channel)
    (now : Moment) (id : Int) (history : List Request) (tenant : String) :
    spent (tell engine replies campaign target channel now id history).rows tenant ≤
      due engine.settings campaign target channel := by
  have nonneg := due_nonneg engine.settings campaign target channel
  have free : spent [] tenant ≤ due engine.settings campaign target channel := by
    simpa [spent] using nonneg
  unfold tell
  cases composes : Composed.of engine.settings campaign.content target.attributes channel with
  | error failure => exact free
  | ok composed =>
    dsimp only
    unfold tellLive
    cases charges : chargeable composed.cost with
    | error failure => exact free
    | ok cost =>
      obtain ⟨rfl, -, positive⟩ := chargeable_ok charges
      dsimp only
      cases heard engine replies channel _ history with
      | error failure => exact free
      | ok outcome =>
        have most : composed.cost.ratio ≤ due engine.settings campaign target channel := by
          rw [due, composes]
          exact le_max_left _ _
        rw [spent_singleton, Pi.single_apply, rowOf_cost]
        split
        · split
          · exact most
          · exact nonneg
        · exact nonneg

/-- What a message is charged is no more than what is due for it. -/
theorem tell_charged {now : Moment} {id : Int} {history : List Request} {cost : Decimal}
    (charged : (tell engine replies campaign target channel now id history).result =
      .ok (.charged cost)) :
    cost.isFinite = true ∧ 0 ≤ cost.ratio ∧
      cost.ratio ≤ due engine.settings campaign target channel := by
  unfold tell at charged
  cases composes : Composed.of engine.settings campaign.content target.attributes channel with
  | error failure =>
    rw [composes] at charged
    cases charged
  | ok composed =>
    rw [composes] at charged
    dsimp only at charged
    unfold tellLive at charged
    cases charges : chargeable composed.cost with
    | error failure =>
      rw [charges] at charged
      cases charged
    | ok moved =>
      obtain ⟨rfl, finite, positive⟩ := chargeable_ok charges
      rw [charges] at charged
      dsimp only at charged
      split at charged
      · cases charged
      · split at charged
        · cases charged
          refine ⟨finite, positive, ?_⟩
          rw [due, composes]
          exact le_max_left _ _
        · cases charged

/-- Behind a message the books are in order, it has been charged no more than its due, and no less
is left than before it without that. -/
structure Pays (due : ℚ) (tenant : String) (before : Store Exact) (result : Except Failure Sent)
    (after : Store Exact) : Prop where
  grown : Grown 0 before after
  left : balanceOf before tenant ≤ balanceOf after tenant + due
  charged : ∀ cost, result = .ok (.charged cost) →
    cost.isFinite = true ∧ 0 ≤ cost.ratio ∧ cost.ratio ≤ due

/-- What is left behind a message covers what was left without its due and more. -/
theorem Pays.left_of_nonneg {due more : ℚ} {tenant : String} {old new : Store Exact}
    {result : Except Failure Sent} (pays : Pays due tenant old result new) (nonneg : 0 ≤ more) :
    balanceOf old tenant ≤ balanceOf new tenant + (due + more) :=
  pays.left.trans (by linarith)

theorem Pays.isWithin {due : ℚ} {tenant : String} {old new : Store Exact} {sent : Sent}
    (pays : Pays due tenant old (.ok sent) new) (few : due ≤ 10 ^ (310 : ℤ)) (cost : Decimal)
    (charged : sent = .charged cost) : cost.IsWithin 310 := by
  obtain ⟨finite, positive, le⟩ := pays.charged cost (congrArg Except.ok charged)
  exact Decimal.isWithin_of_ratio finite positive (le.trans few)

theorem message_pays (live : engine.settings.testMode = false) (sound : Sound world.store)
    (covers : due engine.settings campaign target channel ≤
      balanceOf world.store campaign.tenant) :
    Ends (message (engine.replying replies).toEngine campaign false target channel) world
      fun result after => Pays (due engine.settings campaign target channel) campaign.tenant
        world.store result after.store := by
  refine ((message_tells engine replies live sound covers).and ((message_funded
    (engine.replying replies) campaign false target channel).leads world)).mono ?_
  rintro _ after ⟨⟨rfl, balances, rfl⟩, funded⟩
  have grown := funded sound
  have same := grown.funds_eq campaign.tenant
  have most := spent_tell_le engine replies campaign target channel world.now
    (nextId (world.store.messages.map Message.id)) world.outside campaign.tenant
  simp only [funds, spent_append, Pi.zero_apply, add_zero] at same
  exact ⟨grown, by linarith, fun cost => tell_charged engine replies⟩

end Send

end Herald
