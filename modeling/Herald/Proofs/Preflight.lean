import Herald.Proofs.Forecasts
import Herald.Proofs.Outcomes
import Herald.Proofs.Solvency

/-! # A clean check before a pass

A check that says nothing has found that the campaign may begin, that its filter compiles, that
there are targets, and that the tenant could pay for all of them. A pass from the same state looks
at the same things: it claims its campaign, and its walk owes what the check has counted, since both
go over the same targets and leave out the same ones. As the estimate is not below that, the balance
covers it, and the walk does not run out.
-/

namespace Herald

variable {σ α β γ : Type}

/-! ## What is owed and what is estimated -/

namespace Pass

theorem sum_charges (charge : Channel → ℕ) (channels : List Channel) :
    (channels.map charge).sum =
      channels.count .sms * charge .sms + channels.count .email * charge .email := by
  induction channels with
  | nil => simp
  | cons channel rest ih =>
    rw [List.map_cons, List.sum_cons, ih]
    cases channel <;> simp <;> ring

/-- What is owed to the targets that have been counted is what an estimate goes by. -/
theorem owed_eq_total {counts : EligibleCounts} {excluded : List ℤ} {targets : List TargetRecord}
    (counted : counts.Counts excluded targets) (tariff : Tariff) (segments : ℕ) (reach : Reach) :
    owed (tariff.charge segments) excluded reach targets = tariff.total segments reach counts := by
  have split := sum_charges (tariff.charge segments) ((due excluded reach targets).map Prod.snd)
  rw [List.map_map, count_due, count_due] at split
  have sms := counted.on_eq .sms
  have email := counted.on_eq .email
  have share : ∀ channel cents, (targets.countP fun target => !excluded.contains target.id &&
      (reach.needs channel && target.has channel)) * cents =
        if reach.needs channel then counts.on channel * cents else 0 := by
    intro channel cents
    rw [counted.on_eq]
    cases reach.needs channel <;> simp
  rw [share, share] at split
  exact split

end Pass

/-! ## Balances -/

/-- An amount of whole cents, with ten digits before the point at most: what a column of money
holds. -/
def IsMoney (value : ℚ) : Prop := ∃ cents : ℤ, value = cents / 100 ∧ |cents| < 10 ^ 12

/-- Whole cents are read as they are. -/
theorem Exact.read_cents {amount : Exact} {cents : ℤ} (is : amount.value = cents / 100) :
    (Amount.read pricePlaces amount).IsCents cents := by
  have units : amount.value.num.natAbs * Number.tenPow pricePlaces =
      cents.natAbs * amount.value.den := by
    have same : amount.value.num * 100 = cents * amount.value.den := by
      have value := (Rat.num_div_den amount.value).trans is
      rw [div_eq_div_iff (by exact_mod_cast amount.value.den_ne_zero) (by norm_num)] at value
      exact_mod_cast value
    have absolute := congrArg Int.natAbs same
    rwa [Int.natAbs_mul, Int.natAbs_mul, Int.natAbs_natCast] at absolute
  refine ⟨rfl, ?_⟩
  dsimp only [Amount.read]
  rw [units, Decimal.roundHalfEven_mul _ amount.value.den_pos]
  have hundredth : (10 : ℚ) ^ (-(pricePlaces : ℤ)) = 1 / 100 := by norm_num [pricePlaces]
  have order : (amount.value < 0) ↔ cents < 0 := by
    rw [is, div_lt_iff₀ (by norm_num), zero_mul]
    exact_mod_cast Iff.rfl
  have magnitude : ((cents.natAbs : ℕ) : ℚ) = |(cents : ℚ)| := by
    rw [← Int.cast_abs, Int.abs_eq_natAbs, Int.cast_natCast]
  simp only [Decimal.ratio, order, decide_eq_true_eq, hundredth, magnitude]
  split
  · rename_i below
    rw [abs_of_neg (by exact_mod_cast below)]
    ring
  · rename_i unsigned
    rw [abs_of_nonneg (by exact_mod_cast not_lt.mp unsigned)]
    ring

theorem BalanceLedger.balanceIn_cents {store : Store Exact} {tenant : String} {cents : ℤ}
    (is : balanceOf store tenant = cents / 100) : (balanceIn store tenant).IsCents cents := by
  unfold balanceIn
  unfold balanceOf at is
  cases found : row? store tenant with
  | none =>
    rw [found, Option.map_none, Option.getD_none] at is
    have none : cents = 0 := by
      have : (cents : ℚ) = 0 := by linarith
      exact_mod_cast this
    rw [none]
    exact Decimal.isCents_zero
  | some row =>
    rw [found, Option.map_some, Option.getD_some] at is
    exact Exact.read_cents is

/-! ## Checks -/

namespace Forecast

variable {engine : Engine σ α} {campaign : Campaign α} {world : World σ α} {counts : EligibleCounts}

theorem prepare_still (campaign : Campaign α) :
    Moves Eq (prepare campaign : Run σ α (Audience × List Int)).run :=
  moves_run_bind (Pass.compile_moves campaign) fun _ =>
    moves_run_bind (Pass.excludedTargets_moves campaign) fun _ =>
      moves_run_bind (moves_run_bind moves_clock fun _ => moves_run_pure) fun _ => moves_run_pure

theorem eligibleCounts_still (engine : Engine σ α) (campaign : Campaign α) :
    Moves Eq (eligibleCounts engine campaign).run :=
  moves_run_bind (prepare_still campaign) fun _ => Audience.fold_moves

/-- A forecast that has counted targets has found what it goes by. -/
theorem prepared_of_counted (orderly : Orderly world.store)
    (counted : Ends (eligibleCounts engine campaign) world fun result _ => result = .ok counts) :
    ∃ predicate excluded, Prepared engine campaign world predicate excluded ∧
      counts.Counts excluded (targets engine campaign world predicate) := by
  obtain ⟨⟨audience, excluded⟩, prepares, folds⟩ := ends_ok_of_bind (prepare_still campaign) counted
  obtain ⟨predicate, compiles, prepares⟩ := ends_ok_of_bind (Pass.compile_moves campaign) prepares
  obtain ⟨ids, excludes, prepares⟩ := ends_ok_of_bind (Pass.excludedTargets_moves campaign) prepares
  rw [Pass.compile_ends orderly.created] at compiles
  rw [Pass.excludedTargets_ends orderly.created] at excludes
  have same : (campaign.audience predicate world, ids) = (audience, excluded) :=
    Except.ok.inj prepares
  obtain ⟨rfl, rfl⟩ := Prod.mk.inj same
  have follows : Ends ((campaign.audience predicate world).fold engine.batchSize none
      (countTarget ids) ⟨0, 0, 0, 0, 0, 0⟩) world fun result _ =>
        (∃ counted, result = .ok counted) →
          Ends ((campaign.audience predicate world).count engine.batchSize) world
            fun result after => after = world ∧ ∃ count, result = .ok count ∧ True :=
    Audience.fold_follows orderly.created (orderly.targets _) rfl (I := fun _ _ => True)
      (fun _ _ _ _ => trivial) trivial _
  have through : Ends ((campaign.audience predicate world).count engine.batchSize) world
      fun result _ => ∃ count, result = .ok count :=
    ((follows.and folds).mono fun _ _ ⟨follows, through⟩ => follows ⟨counts, through⟩).elim.mono
      fun _ _ ⟨_, count, counts, _⟩ => ⟨count, counts⟩
  have prepared : Prepared engine campaign world predicate ids :=
    ⟨orderly, compiles, excludes, through⟩
  refine ⟨predicate, ids, prepared, ?_⟩
  refine ((prepared.eligibleCounts_ends.and counted).mono ?_).elim
  rintro _ _ ⟨⟨_, others, rfl, is⟩, same⟩
  cases same
  exact is

theorem checkedSchema_still (campaign : Campaign α) :
    Moves Eq (checkedSchema campaign : Run σ α AttributeSchema).run :=
  moves_run_bind (moves_run_bind moves_pure? fun _ => moves_run_bind moves_query fun _ =>
    moves_pure?) fun _ => moves_run_bind moves_pure? fun _ => moves_run_pure

theorem signaled_still (found : Except Decimal.Signal Decimal) :
    Moves Eq (signaled found : Run σ α Decimal).run := by
  unfold signaled
  split
  · exact moves_run_pure
  · exact moves_throw

theorem signaled_ok {found : Except Decimal.Signal Decimal} {value : Decimal}
    (ends : Ends (signaled found) world fun result _ => result = .ok value) :
    found = .ok value := by
  cases found with
  | error signal => cases ends
  | ok amount =>
    cases ends
    rfl

theorem runnable_of_contentProblems (none : contentProblems campaign = []) :
    campaign.status.isRunnable = true := by
  by_contra stands
  simp [contentProblems, stands] at none

variable [Amount α]

theorem balanceProblems_still (engine : Engine σ α) (campaign : Campaign α)
    (counts : EligibleCounts) : Moves Eq (balanceProblems engine campaign counts).run := by
  refine moves_run_bind (signaled_still _) fun estimate =>
    moves_run_bind moves_query fun balance => ?_
  split
  · exact moves_throw
  · exact moves_run_pure
  · exact moves_run_pure

/-- What a check has found that says nothing against a pass: the campaign may begin, targets have
been counted, and the tenant could pay for as many. -/
structure Clears (engine : Engine σ α) (campaign : Campaign α) (world : World σ α)
    (counts : EligibleCounts) : Prop where
  runnable : campaign.status.isRunnable = true
  counted : Ends (eligibleCounts engine campaign) world fun result _ => result = .ok counts
  some : counts.eligible ≠ 0
  funded : Pass.isMock engine.settings campaign = false →
    Ends (balanceProblems engine campaign counts) world fun result _ => result = .ok []

/-- A check that says nothing has found all of it. -/
theorem clears_of_clean
    (clean : Ends (problems engine campaign false) world fun result _ => result = .ok []) :
    ∃ counts, Clears engine campaign world counts := by
  have still : Moves Eq (Run.attempt (checkedSchema campaign) : Run σ α _).run :=
    checkedSchema_still campaign
  obtain ⟨checked, -, rest⟩ := ends_ok_of_bind still clean
  cases checked with
  | error failure =>
    cases failure with
    | violation violation => exact absurd (Except.ok.inj rest) (by simp)
    | _ => cases rest
  | ok schema =>
    obtain ⟨counts, counted, rest⟩ := ends_ok_of_bind (eligibleCounts_still engine campaign) rest
    dsimp only at rest
    have nothing : ∀ more : List String, contentProblems campaign ++
        templateProblems campaign schema.keys ++
          (if counts.eligible = 0 then ["No eligible targets match the filter"] else []) ++
            more = [] →
        campaign.status.isRunnable = true ∧ counts.eligible ≠ 0 ∧ more = [] := by
      intro more none
      simp only [List.append_eq_nil_iff, ite_eq_right_iff, reduceCtorEq, imp_false] at none
      exact ⟨runnable_of_contentProblems none.1.1.1, none.1.2, none.2⟩
    split at rest
    · rename_i skips
      obtain ⟨runnable, some, -⟩ := nothing [] (by simpa using Except.ok.inj rest)
      refine ⟨counts, runnable, counted, some, fun live => ?_⟩
      simp [live, some] at skips
    · obtain ⟨found, funded, rest⟩ := ends_ok_of_bind (balanceProblems_still _ _ _) rest
      obtain ⟨runnable, some, rfl⟩ := nothing found (Except.ok.inj rest)
      exact ⟨counts, runnable, counted, some, fun _ => funded⟩

/-- A tenant that could pay for the targets counted has the cents that they are charged with. -/
theorem covered_of_funded {engine : Engine σ Exact} {campaign : Campaign Exact}
    {world : World σ Exact} {tariff : Tariff} {cents : ℤ} (created : world.store.created = true)
    (priced : engine.settings.IsPriced tariff)
    (has : balanceOf world.store campaign.tenant = cents / 100) (few : |cents| < 10 ^ 12)
    (funded : Ends (balanceProblems engine campaign counts) world fun result _ => result = .ok []) :
    (tariff.total (engine.settings.segmentsOf campaign.content) campaign.reach counts : ℤ) ≤
      cents := by
  by_contra less
  -- The estimate may be beyond what a decimal counts: the first cent that is missing refutes it.
  obtain ⟨least, above, enough, limit⟩ : ∃ least : ℕ, cents < least ∧ (least : ℤ) ≤
      tariff.total (engine.settings.segmentsOf campaign.content) campaign.reach counts ∧
        least ≤ 10 ^ 12 :=
    ⟨(cents + 1).toNat, by omega, by omega, by have := abs_lt.mp few; omega⟩
  have countable : least < Decimal.countable :=
    limit.trans_lt (by norm_num [Decimal.countable, Decimal.precision])
  obtain ⟨estimate, estimates, rest⟩ := ends_ok_of_bind (signaled_still _) funded
  obtain ⟨balance, reads, rest⟩ := ends_ok_of_bind moves_query rest
  rw [ends_query created, Except.ok.injEq] at reads
  have held := BalanceLedger.balanceIn_cents has
  rw [reads] at held
  obtain ⟨finite, ratio⟩ := (estimatedCost_atLeast priced countable (by exact_mod_cast enough)
    (signaled_ok estimates)).ratio
  have lower : balance.ratio < estimate.ratio := by
    rw [held.ratio_eq]
    refine lt_of_lt_of_le ?_ ratio
    gcongr
    exact_mod_cast above
  rw [Decimal.order?_of_lt held.finite finite lower] at rest
  cases rest

end Forecast

/-! ## Clean checks -/

namespace Pass

variable {engine : Engine σ Exact} {setting : Setting Exact} {world middle : World σ Exact}
  {campaign : Campaign Exact} {counts : EligibleCounts} {tariff : Tariff} {id : ℤ}

theorem reaches_table (spares : engine.SparesFunds) (kind : TargetKind) :
    engine.Reaches (Agree (World.table kind)) where
  message := Send.message_moves (spares.table kind) (fun _ _ => by cases kind <;> rfl)
    fun _ _ => by cases kind <;> rfl
  cooldown := record_moves fun _ _ => by cases kind <;> rfl

/-- A walk behind a clean check goes over the targets that have been counted. -/
theorem Walks.owes_eq {predicate : Predicate} {excluded : List ℤ}
    (walks : Walks engine id world setting middle)
    (found : world.store.campaign? id = some campaign)
    (prepared : Forecast.Prepared engine campaign world predicate excluded)
    (reads : engine.batchSize ≠ 0) (charge : Channel → ℕ) :
    setting.owes charge (setting.audience.records 0 middle.store) =
      owed charge excluded campaign.reach (Forecast.targets engine campaign world predicate) := by
  obtain ⟨old, claims, predicate', compiled, audience⟩ := walks.claims
  cases found.symm.trans claims.found
  cases compiled.symm.trans prepared.compiled
  have excludes : setting.excluded = excluded := Except.ok.inj
    (walks.excluded_eq.symm.trans (claims.excludedIn_eq.trans prepared.excluded_eq))
  have reach : setting.campaign.reach = campaign.reach := by rw [claims.campaign_eq]; rfl
  have table : middle.store.targets predicate.target = world.store.targets predicate.target :=
    Store.targets_of_plans claims.plans_eq _
  have same : setting.audience = campaign.audience predicate world := audience
  rw [Forecast.targets, Audience.met, if_neg reads, Audience.selected, Setting.owes, excludes,
    reach, same, Audience.records, Audience.records, Audience.after_congr table]

/-- A walk behind a clean check does not run out of balance. -/
theorem Walks.unstopped (walks : Walks engine id world setting middle)
    (orderly : Orderly world.store) (found : world.store.campaign? id = some campaign)
    (isTest : setting.isTest = isMock engine.settings campaign)
    (clears : Forecast.Clears engine campaign world counts) (spares : engine.SparesFunds)
    (foresees : engine.settings.Foresees campaign.content tariff)
    (money : IsMoney (balanceOf world.store campaign.tenant)) :
    Leads (setting.walk engine) middle
      fun walked _ => walked.1.stopped ≠ some .outOfBalance := by
  obtain ⟨predicate, excluded, prepared, counted⟩ :=
    Forecast.prepared_of_counted orderly clears.counted
  obtain ⟨old, claims, _⟩ := walks.claims
  cases found.symm.trans claims.found
  have reads : engine.batchSize ≠ 0 := by
    intro blind
    refine clears.some ?_
    rw [counted.eligible_eq, Forecast.targets, Audience.met, if_pos blind]
    rfl
  have owes := walks.owes_eq found prepared reads
  have table := fun progress target => visit_moves (reaches_table spares setting.audience.kind)
    setting.campaign setting.isTest setting.excluded progress target
  have ordered : Orderly middle.store := orderly.of_plans claims.plans_eq
  cases mock : isMock engine.settings campaign with
  | true =>
    rw [mock] at isTest
    have nothing : setting.owes (fun _ => 0) (setting.audience.records 0 middle.store) = 0 := by
      simp [owes, owed]
    refine walk_affords (fun _ => 0) (fun _ => 0) (fun target channel _ => ?_)
      (fun _ _ _ _ _ => le_refl _) table ordered ?_ ?_
    · rw [isTest]
      exact Send.message_affordable_of_test target channel
    · rw [nothing]
      exact Nat.pow_pos (by norm_num)
    · simp [nothing]
  | false =>
    rw [mock] at isTest
    obtain ⟨cents, has, few⟩ := money
    have covered := Forecast.covered_of_funded orderly.created foresees.priced has few
      (clears.funded mock)
    have total : setting.owes (tariff.charge (engine.settings.segmentsOf campaign.content))
        (setting.audience.records 0 middle.store) =
          tariff.total (engine.settings.segmentsOf campaign.content) campaign.reach counts := by
      rw [owes, owed_eq_total counted]
    have left : balanceOf middle.store campaign.tenant = cents / 100 := by
      rw [← has, claims.middle_eq]
      rfl
    refine walk_affords (fun world => balanceOf world.store campaign.tenant)
      (tariff.charge (engine.settings.segmentsOf campaign.content)) (fun target channel few => ?_)
      (record_moves fun _ _ => NotPoorer.of_balances rfl) table ordered ?_ ?_
    · rw [isTest, claims.campaign_eq]
      exact Send.message_affordable spares foresees target channel few
    · rw [total]
      have most := (abs_lt.mp few).2
      unfold Decimal.countable Decimal.precision
      omega
    · rw [total, left]
      gcongr
      exact_mod_cast covered

/-- A pass that nothing has been said against claims its campaign. -/
theorem start_claims {α : Type} [Amount α] {engine : Engine σ α} {world : World σ α}
    {campaign : Campaign α} {counts : EligibleCounts} (orderly : Orderly world.store)
    (fits : Cell.fits id = true) (found : world.store.campaign? id = some campaign)
    (clears : Forecast.Clears engine campaign world counts) :
    Leads (start engine id) world fun begun middle =>
      begun.refusal? = none ∧ ∃ claimed, Claims id world campaign claimed middle := by
  obtain ⟨predicate, _, prepared, _⟩ := Forecast.prepared_of_counted orderly clears.counted
  have unrefused : refusal? world.store id = none := by
    rw [refusal?, found]
    dsimp only
    rw [if_pos clears.runnable, prepared.compiled]
  refine ((start_leads engine id world).and (start_refusal engine orderly.created fits)).mono ?_
  rintro (failure | ⟨claimed, isTest, count, failure⟩ | setting) middle ⟨begins, refusal⟩
  · cases refusal.trans unrefused
  · obtain ⟨old, claims⟩ := begins
    cases found.symm.trans claims.found
    exact ⟨rfl, claimed, claims⟩
  · obtain ⟨old, claims, _⟩ := begins.claims
    cases found.symm.trans claims.found
    exact ⟨rfl, setting.campaign, claims⟩

/-- A pass behind a clean check is not paused for a lack of balance. -/
theorem execute_unpaused (orderly : Orderly world.store) (fits : Cell.fits id = true)
    (found : world.store.campaign? id = some campaign)
    (clears : Forecast.Clears engine campaign world counts) (spares : engine.SparesFunds)
    (foresees : engine.settings.Foresees campaign.content tariff)
    (money : IsMoney (balanceOf world.store campaign.tenant)) :
    Ends (execute engine id) world fun result after =>
      (∀ told, result = .ok told → told.pauseReason = none) ∧
        (engine.Attended id → after.status? id ≠ some .paused) := by
  rw [execute_iff]
  refine ((start_claims orderly fits found clears).and
    ((start_leads engine id world).and (start_finds found))).mono ?_
  rintro (failure | ⟨_, isTest, count, failure⟩ | setting) middle
    ⟨⟨unrefused, claimed, claims⟩, begins, finds⟩
  · cases unrefused
  · have guarded : Guarded id (fun _ => True) middle := claims.guarded
    have fresh : (⟨.start, count, false⟩ : Ledger).progress.stopped ≠ some .outOfBalance := by
      rintro ⟨⟩
    rw [Start.goOn]
    refine ((close_reason fresh _ middle).and
      ((close_pausedBefore id _ _ _ _).leads middle)).mono ?_
    rintro result after ⟨reason, before⟩
    exact ⟨reason, fun _ paused => guarded.not_paused (before paused)⟩
  · obtain ⟨old, own, _⟩ := begins.claims
    have guarded : Leads (setting.walk engine) middle fun walked later => engine.Attended id →
        Guarded id (fun _ => True) later ∧
          (walked.1.stopped = some .cancelled → later.status? id = some .cancelled) :=
      fun attended => walk_guarded attended.guarding own.id_eq own.guarded
    rw [Start.goOn, ends_bind, ends_lift]
    refine ((Walks.unstopped begins orderly found (finds setting rfl).2 clears spares foresees
      money).and guarded).mono ?_
    rintro walked later ⟨unstopped, guarded⟩
    have unpaused : Ends (setting.conclude engine walked) later fun _ after =>
        engine.Attended id → after.status? id ≠ some .paused :=
      fun attended => conclude_unpaused attended.guarding own.id_eq (guarded attended).1
        (guarded attended).2 unstopped
    exact (conclude_reason unstopped later).and unpaused

end Pass

/-- A campaign of an orderly store, under an id that a row can have, about which the check before a
pass says nothing, that of the balance included. -/
structure IsClean [Amount α] (engine : Engine σ α) (id : ℤ) (world : World σ α)
    (campaign : Campaign α) : Prop where
  orderly : Orderly world.store
  fits : Cell.fits id = true
  found : world.store.campaign? id = some campaign
  clean : Ends (Forecast.problems engine campaign false) world fun result _ => result = .ok []

/-- Operators touch neither balances nor targets, so it is only for the providers not to tell that a
tenant cannot pay. -/
theorem OperatedEngine.sparesFunds (engine : OperatedEngine σ Exact)
    (solvent : ∀ request, Solvent (engine.exchange request)) : engine.toEngine.SparesFunds where
  solvent := solvent
  balances := engine.exchange_moves fun _ => rfl
  table kind request world := by
    have same := Store.plans_of_standing (engine.exchange_operated request world).standing
    exact Prod.ext (congrArg Store.created same :) (Store.targets_of_plans same kind)

namespace Sample

theorem engine_sparesFunds : (engine : OperatedEngine Unit Exact).toEngine.SparesFunds :=
  engine.sparesFunds fun request => by cases request <;> exact solvent_pure

/-- The check of the campaign says nothing, and its estimate is a bound. -/
theorem funded_clean : ∃ campaign : Campaign Exact,
    IsClean (engine : OperatedEngine Unit Exact).toEngine 1 (funded 5) campaign ∧
      settings.Foresees campaign.content ⟨4, 1⟩ ∧
        IsMoney (balanceOf (funded 5 : World Unit Exact).store campaign.tenant) := by
  have facts : ((funded 5 : World Unit Exact).store.campaign? 1).any (fun campaign =>
      ((Forecast.problems (engine : OperatedEngine Unit Exact).toEngine campaign false).run.run
        (funded 5)).1.toOption == some [] &&
          (Template.variableNames (campaign.content.template.getD "")).isEmpty &&
            decide (balanceOf (funded 5 : World Unit Exact).store campaign.tenant = 5 / 100)) := by
    decide +kernel
  obtain ⟨campaign, found, facts⟩ := (Option.any_eq_true _ _).mp facts
  simp only [Bool.and_eq_true, beq_iff_eq, List.isEmpty_iff, decide_eq_true_eq] at facts
  obtain ⟨⟨nothing, plain⟩, has⟩ := facts
  have cents : ∀ number : ℕ, (Settings.cents number).IsCents number := fun number =>
    ⟨rfl, by norm_num [Settings.cents, Decimal.ratio]; ring⟩
  have shrinks : settings.sizes.Shrinks := ⟨by decide, by decide, by decide, by decide⟩
  exact ⟨campaign, ⟨orderly_after _ _ _, by decide, found, ok_of_toOption nothing⟩,
    ⟨plain, ⟨cents 4, cents 1⟩, shrinks⟩, 5, has, by norm_num⟩

end Sample

end Herald
