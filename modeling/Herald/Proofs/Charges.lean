import Herald.Proofs.Magnitudes
import Herald.Proofs.Sums
import Herald.Proofs.Visits

/-! # Charges on doubles

A balance that is kept as a double pays only for what has a finite stored form: an infinite amount
is covered by an infinite balance alone, and nothing is left of that which a column could keep. So
the costs of a pass are bounded, its tally can always be added to the sums of its campaign, and its
line in the journal can always be written.
-/

namespace Herald

/-- What has the form of a finite double is below the first power of ten that has none. -/
theorem Number.nearestDouble_finite {amount : Decimal} {negative : Bool} {units : ℕ}
    (unsigned : ∀ coefficient exponent, amount = .finite true coefficient exponent →
      coefficient = 0)
    (finite : nearestDouble amount = .finite negative units) : amount.IsWithin 310 := by
  cases amount with
  | infinite sign => cases finite
  | nan sign signaling payload => cases finite
  | finite sign coefficient exponent =>
    refine ⟨fun minus => unsigned coefficient exponent (by rw [minus]), ?_⟩
    by_cases none : coefficient = 0
    · rw [none, Nat.cast_zero, zero_mul]
      positivity
    · have few : ¬ 310 < exponent + Number.digitCount coefficient := by
        intro many
        simp only [nearestDouble, Binary64.ofScientific, none, many, ↓reduceIte] at finite
        cases finite
      refine (Decimal.lt_pow_adjusted coefficient exponent).le.trans ?_
      refine zpow_le_zpow_right₀ (by norm_num) ?_
      unfold Decimal.adjusted
      omega

theorem Binary64.ofUnits_infinite {negative sign : Bool} {numerator denominator : ℕ}
    (infinite : ofUnits negative numerator denominator = .infinite sign) : negative = sign := by
  unfold ofUnits at infinite
  dsimp only at infinite
  split at infinite
  · cases infinite
  · exact Binary64.infinite.inj infinite

/-- A number that is too large for a double has the sign of the infinity in its place. -/
theorem Number.nearestDouble_infinite {negative sign : Bool} {coefficient : ℕ} {exponent : ℤ}
    (infinite : nearestDouble (.finite negative coefficient exponent) = .infinite sign) :
    negative = sign ∧ coefficient ≠ 0 := by
  simp only [nearestDouble, Binary64.ofScientific] at infinite
  split_ifs at infinite with none large small whole
  · exact ⟨Binary64.infinite.inj infinite, none⟩
  · exact ⟨Binary64.ofUnits_infinite infinite, none⟩
  · exact ⟨Binary64.ofUnits_infinite infinite, none⟩

namespace BalanceLedger

/-- A change that counts rows has changed one. -/
theorem exists_changed {α : Type} {tenant : String} {condition : α → Bool} {update : α → Option α}
    {rows changed : List (Balance α)} {count : ℕ}
    (ok : change tenant condition update rows = .ok (count, changed)) (counts : count ≠ 0) :
    ∃ before after, condition before = true ∧ update before = some after := by
  induction rows generalizing count changed with
  | nil =>
    cases ok
    exact absurd rfl counts
  | cons row rest ih =>
    obtain ⟨⟨others, rest'⟩, restOk, ok⟩ := ok_of_bind ok
    dsimp only at ok
    split at ok
    · rename_i meets
      split at ok
      · rename_i after updated
        exact ⟨row.amount, after, (Bool.and_eq_true _ _ ▸ meets).2, updated⟩
      · cases ok
    · cases ok
      exact ih restOk counts

/-- An amount that may be moved is not below zero. -/
theorem unsigned_of_movable {amount moved : Decimal} (ok : movable amount = .ok moved) :
    (∀ coefficient exponent, amount = .finite true coefficient exponent → coefficient = 0) ∧
      amount ≠ .infinite true := by
  constructor
  · rintro coefficient exponent rfl
    by_contra some
    simp [movable, Decimal.order?, Decimal.zero, some] at ok
  · rintro rfl
    simp [movable, Decimal.order?, Decimal.zero] at ok

/-- Whatever a double covers and can be taken from is finite. -/
theorem within_of_paid {amount : Decimal} {cost before after : Binary64}
    (unsigned : ∀ coefficient exponent, amount = .finite true coefficient exponent →
      coefficient = 0) (notBelow : amount ≠ .infinite true)
    (column : (Number.nearestDouble amount).column? = some cost)
    (covers : Amount.covers before cost = true) (pays : Amount.sub? before cost = some after) :
    amount.IsWithin 310 := by
  cases nearest : Number.nearestDouble amount with
  | nan => simp [nearest, Binary64.column?] at column
  | finite negative units => exact Number.nearestDouble_finite unsigned nearest
  | infinite negative =>
    rw [nearest] at column
    cases column
    cases negative with
    | false =>
      -- Only an infinite balance covers it, and the difference of the two is no number.
      cases before with
      | nan => cases covers
      | finite sign units => cases covers
      | infinite sign =>
        cases sign with
        | true => cases covers
        | false => cases pays
    | true =>
      cases amount with
      | infinite sign =>
        cases nearest
        exact absurd rfl notBelow
      | nan sign signaling payload => cases nearest
      | finite sign coefficient exponent =>
        obtain ⟨rfl, some⟩ := Number.nearestDouble_infinite nearest
        exact absurd (unsigned coefficient exponent rfl) some

/-- A balance of doubles pays for no more than a finite double. -/
theorem deduct_within {σ : Type} (tenant : String) (amount : Decimal)
    (world : World σ Binary64) :
    Ends (deduct tenant amount) world fun result _ => result = .ok true →
      amount.IsWithin 310 := by
  rw [deduct, ends_bind, ends_pure?]
  cases moves : movable amount with
  | error failure => exact fun same => by cases same
  | ok moved =>
    obtain ⟨unsigned, notBelow⟩ := unsigned_of_movable moves
    obtain rfl := (movable_ok moves).1
    dsimp only
    split
    · rename_i zero
      intro _
      cases moved with
      | finite negative coefficient exponent =>
        have none : coefficient = 0 := by simpa only [Decimal.isZero, beq_iff_eq] using zero
        refine ⟨fun _ => none, ?_⟩
        rw [none, Nat.cast_zero, zero_mul]
        positivity
      | infinite negative => cases zero
      | nan negative signaling payload => cases zero
    · refine ends_commit_of (fun failure same => by cases same) fun paid store wrote same => ?_
      cases same
      obtain ⟨cost, storedOk, wrote⟩ := ok_of_bind wrote
      obtain ⟨⟨count, balances⟩, changed, wrote⟩ := ok_of_bind wrote
      have counts : count ≠ 0 := by simpa using congrArg Prod.fst (Except.ok.inj wrote)
      obtain ⟨before, after, covers, pays⟩ := exists_changed changed counts
      have column : (Number.nearestDouble moved).column? = some cost := by
        unfold stored at storedOk
        split at storedOk
        · rename_i kept
          cases storedOk
          exact kept
        · cases storedOk
      exact within_of_paid unsigned notBelow column covers pays

end BalanceLedger

variable {σ : Type}

/-! ## Tallies -/

/-- A message costs no more than a finite double. -/
theorem Send.message_within (engine : Engine σ Binary64) (campaign : Campaign Binary64)
    (isTest : Bool) (target : TargetRecord) (channel : Channel) (world : World σ Binary64) :
    Ends (Send.message engine campaign isTest target channel) world fun result _ =>
      ∀ cost, result = .ok (.charged cost) → cost.IsWithin 310 := by
  have tells : ∀ {β : Type} (action : Run σ Binary64 β) (sent : Sent) (world : World σ Binary64),
      Ends (do let _ ← action; return sent) world fun result _ =>
        ∀ found, result = .ok found → found = sent := by
    intro β action sent world
    rw [ends_bind]
    refine (leads_true _ _).mono fun result after _ => ?_
    cases result <;> exact fun found same => by cases same <;> rfl
  rw [message, ends_bind, ends_pure?]
  cases Composed.of engine.settings campaign.content target.attributes channel with
  | error failure => exact fun cost same => by cases same
  | ok composed =>
    dsimp only
    split
    · rw [simulate, ends_bind, ends_clock]
      refine (tells _ _ world).mono fun result after told cost same => ?_
      cases told _ same
    · rw [sendLive, ends_bind]
      refine (BalanceLedger.deduct_within campaign.tenant composed.cost world).mono ?_
      rintro (failure | ⟨_ | _⟩) paid within
      · exact fun cost same => by cases same
      · exact fun cost same => by cases same
      · simp only [Bool.not_true, Bool.false_eq_true, ↓reduceIte]
        rw [ends_bind]
        refine (leads_true _ _).mono fun result settled _ => ?_
        cases result with
        | error failure => exact fun cost same => by cases same
        | ok outcome =>
          dsimp only
          split
          · rw [ends_bind, ends_clock]
            refine (tells _ _ settled).mono fun result after told cost same => ?_
            cases told _ same
            exact within rfl
          · rw [ends_bind]
            refine (leads_true _ _).mono fun result refunded _ => ?_
            cases result with
            | error failure => exact fun cost same => by cases same
            | ok value =>
              dsimp only
              rw [ends_bind, ends_clock]
              refine (tells _ _ refunded).mono fun result after told cost same => ?_
              cases told _ same

/-- The bound of what a tally adds up: far above what is added to it, and far below what a decimal
cannot hold. -/
def Tally.bound : ℤ := 400

/-- A tally whose costs are bounded. -/
def Tally.IsWithin (tally : Tally) : Prop :=
  ∀ channel, (tally.channel channel).cost.IsWithin Tally.bound

namespace Tally

theorem isWithin_empty : Tally.empty.IsWithin := by
  intro channel
  cases channel <;> exact Decimal.isWithin_zero _

theorem IsWithin.withChannel {tally : Tally} (within : tally.IsWithin) {channel : Channel}
    {counts : ChannelTally} (cost : counts.cost.IsWithin bound) :
    (tally.withChannel channel counts).IsWithin := by
  intro other
  cases channel <;> cases other
  · exact cost
  · exact within .email
  · exact within .sms
  · exact cost

/-- A message is counted, because what it costs is far below the bound of its tally, and the tally
remains bounded. -/
theorem IsWithin.exists_record {tally : Tally} (within : tally.IsWithin) (channel : Channel)
    {sent : Sent} (charged : ∀ cost, sent = .charged cost → cost.IsWithin 310) :
    ∃ counted, tally.record channel sent = .ok counted ∧ counted.IsWithin := by
  have success : ∀ {cost : Decimal} (delivered : Bool), cost.IsWithin 310 →
      ∃ counted, tally.success channel cost delivered = .ok counted ∧ counted.IsWithin := by
    intro cost delivered small
    have low : bound ≤ 1000 := by decide
    obtain ⟨total, sum, most⟩ := Decimal.add_within low (within channel) (small.mono (by decide))
    rw [Tally.success, ChannelTally.success, sum]
    exact ⟨_, rfl, within.withChannel most⟩
  cases sent with
  | charged cost => exact success false (charged cost rfl)
  | simulated => exact success true (Decimal.isWithin_zero _)
  | rejected => exact ⟨_, rfl, within.withChannel (within channel)⟩

theorem IsWithin.record {tally counted : Tally} (within : tally.IsWithin) {channel : Channel}
    {sent : Sent} (charged : ∀ cost, sent = .charged cost → cost.IsWithin 310)
    (ok : tally.record channel sent = .ok counted) : counted.IsWithin := by
  obtain ⟨counted', ok', within'⟩ := within.exists_record channel charged
  cases ok.symm.trans ok'
  exact within'

end Tally

/-- A pass with a bounded tally has a line in the journal. -/
theorem PassResult.journalLine_ok {result : PassResult} (within : result.tally.IsWithin)
    (tenant : String) : ∃ line, result.journalLine tenant = .ok line := by
  have low : Tally.bound + 29 ≤ 1000 := by decide
  have sms : result.tally.sms.cost.IsWithin (Tally.bound + 29) :=
    Decimal.IsWithin.mono (within .sms) (by decide)
  have email : result.tally.email.cost.IsWithin (Tally.bound + 29 - 29) := within .email
  obtain ⟨total, sum, _⟩ := Decimal.add_within low sms email
  exact ⟨_, by rw [journalLine, sum]⟩

/-! ## Sums -/

namespace Binary64

/-- A double to which costs can be added: it is a number and not the infinity below all numbers. -/
def IsAddable (amount : Binary64) : Prop := amount ≠ .nan ∧ amount ≠ .infinite true

/-- A number has a place in a column. -/
theorem exists_column {amount : Binary64} (number : amount ≠ .nan) :
    ∃ kept, amount.column? = some kept := by
  cases amount with
  | nan => exact absurd rfl number
  | infinite negative => exact ⟨_, rfl⟩
  | finite negative units => exact ⟨_, rfl⟩

theorem IsAddable.column {amount kept : Binary64} (addable : amount.IsAddable)
    (column : amount.column? = some kept) : kept.IsAddable := by
  cases amount with
  | nan => exact absurd rfl addable.1
  | infinite negative =>
    cases column
    exact addable
  | finite negative units =>
    cases column
    split <;> exact ⟨by simp [zero], by simp [zero]⟩

theorem ofUnits_ne_nan (negative : Bool) (numerator denominator : ℕ) :
    ofUnits negative numerator denominator ≠ .nan := by
  unfold ofUnits
  dsimp only
  split <;> simp

theorem add_ne_nan {a b : Binary64} (left : a.IsAddable) (right : b.IsAddable) : a.add b ≠ .nan := by
  cases a with
  | nan => exact absurd rfl left.1
  | infinite negative =>
    cases negative with
    | true => exact absurd rfl left.2
    | false =>
      cases b with
      | nan => exact absurd rfl right.1
      | infinite negative =>
        cases negative with
        | true => exact absurd rfl right.2
        | false => simp [add]
      | finite sign units => simp [add]
  | finite sign units =>
    cases b with
    | nan => exact absurd rfl right.1
    | infinite negative => simp [add]
    | finite sign' units' =>
      unfold add
      dsimp only
      split
      · simp
      · rw [ofSignedUnits]
        exact ofUnits_ne_nan _ _ _

end Binary64

/-- An amount that is not below zero is stored as what can be added. -/
theorem Number.nearestDouble_isAddable {amount : Decimal} {limit : ℤ}
    (within : amount.IsWithin limit) : (nearestDouble amount).IsAddable := by
  cases amount with
  | infinite negative => exact within.elim
  | nan negative signaling payload => exact within.elim
  | finite negative coefficient exponent =>
    constructor
    · simp only [nearestDouble, Binary64.ofScientific]
      split_ifs with none large small whole
      · exact fun same => by cases same
      · exact fun same => by cases same
      · exact fun same => by cases same
      · exact Binary64.ofUnits_ne_nan _ _ _
      · exact Binary64.ofUnits_ne_nan _ _ _
    · intro infinite
      obtain ⟨rfl, some⟩ := nearestDouble_infinite infinite
      exact some (within.1 rfl)

/-- A bounded cost can be added to a sum. -/
theorem ChannelTally.exists_addTo {tally : ChannelTally} {limit : ℤ}
    (within : tally.cost.IsWithin limit) {aggregates : Aggregates Binary64}
    (addable : aggregates.cost.IsAddable) : ∃ added, tally.addTo aggregates = .ok added := by
  have nearest := Number.nearestDouble_isAddable within
  obtain ⟨cost, column⟩ := Binary64.exists_column nearest.1
  obtain ⟨total, sum⟩ := Binary64.exists_column
    (Binary64.add_ne_nan addable (nearest.column column))
  have stored : (Amount.ofDecimal? tally.cost).bind (Amount.add? aggregates.cost) = some total := by
    rw [show Amount.ofDecimal? tally.cost = some cost from column]
    exact sum
  rw [addTo, stored]
  by_cases zero : tally.cost.isZero = true
  · rw [if_pos zero]
    exact ⟨_, rfl⟩
  · rw [if_neg zero]
    exact ⟨_, rfl⟩

/-- The sums of the campaigns of an id, of which there is one, can be added to. -/
def Store.Addable (store : Store Binary64) (id : Int) : Prop :=
  ∀ campaign ∈ store.campaigns, campaign.id = id →
    campaign.sms.cost.IsAddable ∧ campaign.email.cost.IsAddable

theorem Store.addable_standing (store : Store Binary64) :
    store.standing.Addable = store.Addable := by
  funext id
  simp only [Addable, standing, List.forall_mem_map]
  rfl

/-- A tally that can be added to the sums of its campaign is added to them. -/
theorem Lifecycle.apply_succeeds_of {α : Type} [Amount α] {id : Int} {tally : Tally}
    {world : World σ α} (created : world.store.created = true) (fits : Cell.fits id = true)
    (adds : ∀ campaign ∈ world.store.campaigns, campaign.id = id →
      (∃ sms, tally.sms.addTo campaign.sms = .ok sms) ∧
        ∃ email, tally.email.addTo campaign.email = .ok email)
    (count : Option Cell) :
    Ends (apply id tally count) world fun result _ => ∃ applied, result = .ok applied ∧
      (count.isSome = true → applied = true) := by
  unfold apply
  split
  · rename_i nothing
    refine ⟨false, rfl, fun some => ?_⟩
    rw [Bool.and_eq_true, Option.isNone_iff_eq_none] at nothing
    rw [nothing.2] at some
    exact some
  · have wrote : ∃ written, applyIn id tally count world.now world.store = .ok written := by
      refine exists_ok_bind_of (if_pos fits) (exists_ok_bind (exists_ok_mapM ?_) fun _ => ⟨_, rfl⟩)
      intro campaign member
      split
      · rename_i same
        obtain ⟨sms, email⟩ := adds campaign member (beq_iff_eq.mp same)
        exact exists_ok_bind sms fun _ => exists_ok_bind email fun _ => ⟨_, rfl⟩
      · exact ⟨_, rfl⟩
    rw [ends_bind, ends_clock]
    dsimp only
    obtain ⟨written, wrote⟩ := wrote
    rw [ends_bind, ends_commit created, wrote]
    exact ⟨true, rfl, fun _ => rfl⟩

/-- A bounded tally is added to sums that can be added to. -/
theorem Lifecycle.apply_succeeds {id : Int} {tally : Tally} (within : tally.IsWithin)
    {world : World σ Binary64} (created : world.store.created = true) (fits : Cell.fits id = true)
    (addable : world.store.Addable id) (count : Option Cell) :
    Ends (apply id tally count) world fun result _ => ∃ applied, result = .ok applied ∧
      (count.isSome = true → applied = true) := by
  refine apply_succeeds_of created fits (fun campaign member same => ?_) count
  obtain ⟨sms, email⟩ := addable campaign member same
  exact ⟨ChannelTally.exists_addTo (within .sms) sms, ChannelTally.exists_addTo (within .email) email⟩

namespace Pass

variable (engine : Engine σ Binary64)

/-- The messages to a target keep the tally bounded. -/
theorem serve_within (campaign : Campaign Binary64) (isTest : Bool) (target : TargetRecord)
    (channels : List Channel) {tally : Tally} (within : tally.IsWithin) (delivered : Bool)
    (world : World σ Binary64) :
    Leads (serve engine campaign isTest target channels tally delivered) world fun served _ =>
      served.1.IsWithin := by
  induction channels generalizing tally delivered world with
  | nil => exact within
  | cons channel rest ih =>
    rw [serve, leads_bind]
    refine (Send.message_within engine campaign isTest target channel world).mono ?_
    rintro (failure | sent) after charged
    · cases failure <;> exact within
    · dsimp only
      cases counts : tally.record channel sent with
      | error failure => exact within
      | ok counted =>
        exact ih (within.record (fun cost same => charged cost (by rw [same])) counts) _ after

theorem visit_within (campaign : Campaign Binary64) (isTest : Bool) (excluded : List Int)
    {progress : Progress} (within : progress.tally.IsWithin) (target : TargetRecord)
    (world : World σ Binary64) :
    Leads (visit engine campaign isTest excluded progress target) world fun visited _ =>
      visited.found.tally.IsWithin := by
  rw [visit, leads_bind]
  refine (leads_true _ _).mono fun status middle _ => ?_
  cases status with
  | error failure => exact within
  | ok status =>
    dsimp only
    split
    · exact within
    · split
      · exact within
      · split
        · exact within
        · rw [leads_bind]
          refine (serve_within engine campaign isTest target _ within false middle).mono ?_
          rintro ⟨tally, served⟩ later within
          cases served with
          | aborted failure => exact within
          | fully delivered =>
            refine leads_bind.mpr ((leads_true _ _).mono fun result after _ => ?_)
            cases result <;> exact within
          | outOfBalance delivered =>
            refine leads_bind.mpr ((leads_true _ _).mono fun result after _ => ?_)
            cases result <;> exact within

end Pass

end Herald
