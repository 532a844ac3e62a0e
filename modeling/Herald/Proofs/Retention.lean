import Herald.Proofs.Spacing

/-! # Cleaning up the cooldown ledger

Cleaning up deletes every row that is older than a retention, whichever campaign the row is about. A
campaign whose cooldown is over within the retention leaves out the same targets as before. One
whose cooldown is longer lets go of the targets whose rows have been deleted, unless it runs once
and has sent them a message.
-/

namespace Herald

variable {σ α : Type}

open CooldownLedger

/-- A cooldown of the campaign is over within a number of days. -/
def Campaign.CoolsWithin (days : Int) (campaign : Campaign α) : Prop :=
  ∀ length, campaign.cooldownDays.micros .days = .ok length → length ≤ days * dayMicros

theorem Campaign.coolsWithin_iff {campaign : Campaign α} {days length : Int}
    (lasts : campaign.cooldownDays = .int length) : campaign.CoolsWithin days ↔ length ≤ days := by
  have unit : (0 : Int) < dayMicros := by decide
  rw [CoolsWithin, lasts]
  refine ⟨fun within => le_of_mul_le_mul_right (within _ rfl) unit, ?_⟩
  rintro within _ ⟨⟩
  exact mul_le_mul_of_nonneg_right within unit.le

namespace CooldownLedger

/-! ## Windows that are cut -/

section Cleaned

variable {store : Store α} {campaign targetId : Int} {target : String} {start kept : Moment}

theorem mem_activeIn_iff : targetId ∈ activeIn store campaign target start ↔
    isActiveIn store campaign target targetId start = true := by
  simp only [activeIn, List.mem_map, List.mem_filter, isActiveIn, List.any_eq_true, isFor,
    Bool.and_eq_true, beq_iff_eq]
  constructor
  · rintro ⟨row, ⟨member, about, held⟩, rfl⟩
    exact ⟨row, member, ⟨about, rfl⟩, held⟩
  · rintro ⟨row, member, ⟨about, rfl⟩, held⟩
    exact ⟨row, ⟨member, about, held⟩, rfl⟩

/-- Of a window that opens no earlier than the kept one nothing is deleted. -/
theorem activeIn_cleanupIn_of_le (within : kept.micros ≤ start.micros) :
    activeIn (cleanupIn kept store).2 campaign target start =
      activeIn store campaign target start := by
  have spares : ∀ row : Cooldown, start ≤ row.sentAt → ¬ row.sentAt < kept :=
    fun row held old => Nat.lt_irrefl _ (Nat.lt_of_le_of_lt (Nat.le_trans within held) old)
  simp only [activeIn, cleanupIn, List.filter_filter]
  refine congrArg (List.map Cooldown.targetId) (List.filter_congr fun row _ => ?_)
  by_cases held : start ≤ row.sentAt
  · simp [held, spares row held]
  · simp [held]

/-- Of any window those remain whom the campaign has reached in the kept one. -/
theorem mem_activeIn_cleanupIn : targetId ∈ activeIn (cleanupIn kept store).2 campaign target start ↔
    targetId ∈ activeIn store campaign target start ∧
      isActiveIn store campaign target targetId kept = true := by
  rw [mem_activeIn_iff, mem_activeIn_iff, isActiveIn_iff]
  have remains : ∀ row : Cooldown, row ∈ (cleanupIn kept store).2.cooldowns ↔
      row ∈ store.cooldowns ∧ kept.micros ≤ row.sentAt.micros := by
    intro row
    simp only [cleanupIn, List.mem_filter, Bool.not_eq_true', decide_eq_false_iff_not]
    exact and_congr_right fun _ => Nat.not_lt
  constructor
  · rintro ⟨row, member, about, held⟩
    obtain ⟨member, recent⟩ := (remains row).mp member
    exact ⟨isActiveIn_iff.mpr ⟨row, member, about, held⟩,
      isActiveIn_iff.mpr ⟨row, member, about, recent⟩⟩
  · rintro ⟨active, recent⟩
    -- The later of the two windows decides, whichever that is.
    rcases Nat.le_total kept.micros start.micros with within | longer
    · obtain ⟨row, member, about, held⟩ := isActiveIn_iff.mp active
      exact ⟨row, (remains row).mpr ⟨member, Nat.le_trans within held⟩, about, held⟩
    · obtain ⟨row, member, about, held⟩ := isActiveIn_iff.mp recent
      exact ⟨row, (remains row).mpr ⟨member, held⟩, about, Nat.le_trans longer held⟩

end Cleaned

/-- Cleaning up fails without a trace, or deletes what is older than the window. -/
theorem cleanup_ends (days : Cell) (world : World σ α) :
    Ends (cleanup days) world fun result after =>
      match result with
      | .error _ => after = world
      | .ok _ => world.store.created = true ∧ ∃ kept, windowStart world.now days = .ok kept ∧
          after = { world with store := (cleanupIn kept world.store).2 } := by
  rw [cleanup, ends_bind, ends_clock]
  dsimp only
  rw [ends_bind, ends_pure?]
  cases opens : windowStart world.now days with
  | error failure => exact rfl
  | ok kept =>
    dsimp only
    cases created : world.store.created with
    | true =>
      rw [ends_commit created]
      exact ⟨rfl, kept, rfl, rfl⟩
    | false =>
      simp only [Run.commit, ends_bind, ends_get, created, Bool.false_eq_true, ↓reduceIte]
      exact rfl

end CooldownLedger

/-! ## The targets that a campaign leaves out -/

namespace Pass

/-- A campaign goes on to leave a target out when the rows before a time are deleted: the target has
been reached since, or the campaign runs once and has sent it a message. -/
def StaysOut (store : Store α) (campaign : Campaign α) (kept : Moment) (targetId : Int) : Prop :=
  isActiveIn store campaign.id campaign.target targetId kept = true ∨
    campaign.isAutomated = false ∧
      targetId ∈ Lifecycle.messagedIn store campaign.id campaign.target

variable {now : Moment} {store : Store α} {campaign : Campaign α} (kept : Moment)

/-- What is kept covers a cooldown that is over within it. -/
theorem excludedIn_cleanupIn_of_le {kept : Moment}
    (spares : ∀ start, windowStart now campaign.cooldownDays = .ok start →
      kept.micros ≤ start.micros) :
    excludedIn now (cleanupIn kept store).2 campaign = excludedIn now store campaign := by
  have cooled : cooledIn now (cleanupIn kept store).2 campaign = cooledIn now store campaign := by
    unfold cooledIn
    cases opens : windowStart now campaign.cooldownDays with
    | error failure => rfl
    | ok start => simp only [bind, Except.bind, activeIn_cleanupIn_of_le (spares start opens)]
  rw [excludedIn, cooled]
  rfl

/-- Of the targets in cooldown those remain whom the campaign has reached in the kept window. -/
theorem cooledIn_cleanupIn {ids : List Int} (found : cooledIn now store campaign = .ok ids) :
    ∃ rest, cooledIn now (cleanupIn kept store).2 campaign = .ok rest ∧
      ∀ targetId, targetId ∈ rest ↔ targetId ∈ ids ∧
        isActiveIn store campaign.id campaign.target targetId kept = true := by
  obtain ⟨positive, decided, found⟩ := ok_of_bind found
  rw [cooledIn, decided]
  cases positive with
  | false =>
    cases found
    exact ⟨[], rfl, by simp⟩
  | true =>
    obtain ⟨start, opens, found⟩ := ok_of_bind found
    obtain ⟨fit, fits, found⟩ := ok_of_bind found
    cases fitted_eq fits
    cases found
    rw [opens, fits]
    exact ⟨_, rfl, fun targetId => mem_activeIn_cleanupIn⟩

theorem excludedIn_cleanupIn {ids : List Int} (found : excludedIn now store campaign = .ok ids) :
    ∃ rest, excludedIn now (cleanupIn kept store).2 campaign = .ok rest ∧
      ∀ targetId, targetId ∈ rest ↔ targetId ∈ ids ∧ StaysOut store campaign kept targetId := by
  obtain ⟨cooled, found, among⟩ := ok_of_bind found
  obtain ⟨rest, remains, iff⟩ := cooledIn_cleanupIn kept found
  cases among
  rw [excludedIn, remains]
  refine ⟨_, rfl, fun targetId => ?_⟩
  unfold StaysOut
  cases automated : campaign.isAutomated with
  | true => simpa using iff targetId
  | false =>
    have same : Lifecycle.messagedIn (cleanupIn kept store).2 campaign.id campaign.target =
      Lifecycle.messagedIn store campaign.id campaign.target := rfl
    simp only [Bool.false_eq_true, ↓reduceIte, List.mem_append, iff targetId, same, true_and]
    tauto

end Pass

/-- Cleaning up changes nothing but the ledger. Behind it every campaign whose cooldown is over
within the retention leaves out exactly the targets that it left out before, and every other one
those of them that it has reached within the retention or, if it runs once, has sent a message. -/
theorem cleanup_spares_short_cooldowns (world : World σ α) (days : Int) (campaign : Campaign α) :
    Ends (Pass.excludedTargets campaign) world fun before same => same = world ∧
      Ends (cleanup (.int days)) world fun cleaned after =>
        after = { world with
          store := { world.store with cooldowns := after.store.cooldowns } } ∧
        Ends (Pass.excludedTargets campaign) after fun left _ =>
          (campaign.CoolsWithin days → left = before) ∧
          ∀ removed ids, cleaned = .ok removed → before = .ok ids →
            ∃ kept rest, windowStart world.now (.int days) = .ok kept ∧ left = .ok rest ∧
              ∀ targetId, targetId ∈ rest ↔
                targetId ∈ ids ∧ Pass.StaysOut world.store campaign kept targetId := by
  have still := Pass.excludedTargets_moves (R := Eq (α := World σ α)) campaign
  rw [Ends, leads_iff_of_still still]
  refine ⟨rfl, (cleanup_ends (.int days) world).mono ?_⟩
  rintro (failure | removed) after wrote
  · obtain rfl : after = world := wrote
    rw [Ends, leads_iff_of_still still]
    exact ⟨rfl, fun _ => rfl, fun _ _ failed => by cases failed⟩
  · obtain ⟨created, kept, opens, rfl⟩ := wrote
    refine ⟨rfl, ?_⟩
    let after : World σ α := { world with store := (cleanupIn kept world.store).2 }
    have created' : after.store.created = true := created
    have before : Ends (Pass.excludedTargets campaign) world fun result _ =>
        result = Pass.excludedIn world.now world.store campaign :=
      (Pass.excludedTargets_ends created).mpr rfl
    refine (Pass.excludedTargets_ends created').mpr ?_
    rw [show ((Pass.excludedTargets campaign).run.run world).1 = _ from before]
    refine ⟨fun within => Pass.excludedIn_cleanupIn_of_le fun start cools => ?_,
      fun _ ids _ found => ?_⟩
    · obtain ⟨kept', lasts, kept_eq⟩ := windowStart_eq opens
      obtain ⟨length, lasting, start_eq⟩ := windowStart_eq cools
      have start_eq : start.micros + length = world.now.micros := start_eq
      obtain rfl : days * (dayMicros : Int) = kept' := Except.ok.inj lasts
      have shorter := within length lasting
      omega
    · obtain ⟨rest, remains, iff⟩ := Pass.excludedIn_cleanupIn kept found
      exact ⟨kept, rest, opens, remains, iff⟩

namespace Sample

variable [Amount α]

/-- A campaign that repeats, with a cooldown of thirty days. -/
def monthly : Draft := { draft with recurrence := .automated, cooldownDays := 30 }

/-- The campaign has reached the customer two days ago. -/
def reached : World Unit α :=
  (World.opened (hour 960 (by decide)) ()).after
    [.create "t" monthly, .upsert ⟨"t", .customer, []⟩ [] .null
      [("phone", .text "123"), ("email", .text "a@b.co")], .credit "t" (Settings.cents 100),
      .execute engine 1, .elapse (hour 1008 (by decide)) ()]

end Sample

/-- A retention of thirty days spares a cooldown of thirty days. -/
theorem sample_cooldown_spared :
    ∃ campaign ∈ (Sample.reached : World Unit Exact).store.campaigns, campaign.CoolsWithin 30 ∧
      Ends (Pass.excludedTargets campaign) Sample.reached fun before _ =>
        before.toOption = some [1] ∧
        Ends (cleanup (.int 30)) Sample.reached fun _ after =>
          Ends (Pass.excludedTargets campaign) after fun left _ => left = before := by
  have reached : (Sample.reached : World Unit Exact).store.campaigns.any (fun campaign =>
      campaign.cooldownDays == .int 30 &&
        decide (((Pass.excludedTargets campaign).run.run Sample.reached).1.toOption =
          some [1])) = true := by decide +kernel
  obtain ⟨campaign, member, holds⟩ := List.any_eq_true.mp reached
  rw [Bool.and_eq_true, beq_iff_eq, decide_eq_true_eq] at holds
  have within : campaign.CoolsWithin 30 := (Campaign.coolsWithin_iff holds.1).mpr (Int.le_refl _)
  refine ⟨campaign, member, within, holds.2, ?_⟩
  refine (cleanup_spares_short_cooldowns Sample.reached 30 campaign).2.mono ?_
  rintro _ after ⟨_, spared⟩
  exact spared.mono fun left _ spared => spared.1 within

/-- A retention of one day does not. -/
theorem short_retention_ends_cooldown :
    ∃ campaign ∈ (Sample.reached : World Unit Exact).store.campaigns,
      campaign.cooldownDays = .int 30 ∧
      (Ends (Pass.excludedTargets campaign) Sample.reached fun before _ =>
        before.toOption = some [1]) ∧
      Ends (cleanup (.int 1)) Sample.reached fun _ after =>
        Ends (Pass.excludedTargets campaign) after fun left _ => left.toOption = some [] := by
  have dropped : (Sample.reached : World Unit Exact).store.campaigns.any (fun campaign =>
      campaign.cooldownDays == .int 30 &&
        decide (((Pass.excludedTargets campaign).run.run Sample.reached).1.toOption = some [1]) &&
        decide (((Pass.excludedTargets campaign).run.run
          ((cleanup (.int 1)).worldAfter Sample.reached)).1.toOption = some [])) = true := by
    decide +kernel
  obtain ⟨campaign, member, holds⟩ := List.any_eq_true.mp dropped
  rw [Bool.and_eq_true, Bool.and_eq_true, beq_iff_eq, decide_eq_true_eq, decide_eq_true_eq] at holds
  exact ⟨campaign, member, holds.1.1, holds.1.2, holds.2⟩

end Herald
