import Herald.Proofs.Exact
import Herald.Proofs.Once
import Herald.Proofs.Tours

/-! # What a campaign has sent when it completes

A campaign that runs once may be paused again and again for lack of money, and goes on when more has
been credited and it is resumed. If nothing else happens until it completes, every target that its
first pass did not leave out has got a message on each of its channels, with one exception. A target
that has got its text message when the money runs out counts as reached, so that no later pass sends
it the e-mail.
-/

namespace Herald

variable {σ α : Type} [Amount α]

/-- Whether a campaign in a status may still send something, now or when it is resumed. -/
def CampaignStatus.waits (status : CampaignStatus) : Bool := status.isRunnable || status == .paused

/-- The first pass of a campaign that runs once: what it goes by and whom it leaves out. -/
structure Outset (start : World σ α) (id : Int) (first : Campaign α) (predicate : Predicate)
    (excluded : List Int) : Prop where
  orderly : Orderly start.store
  found : start.store.campaign? id = some first
  once : first.isAutomated = false
  fresh : first.targetCount = .int 0
  compiled : Pass.compileIn start.store first = .ok predicate
  excluded_eq : Pass.excludedIn start.now start.store first = .ok excluded

/-- The audience of a pass that begins in a world. -/
def Campaign.audience (campaign : Campaign α) (predicate : Predicate) (world : World σ α) : Audience :=
  ⟨campaign.tenant, predicate.target, predicate, world.now.date⟩

/-- Only what passes write has changed, and no time has passed. -/
structure Frozen (before after : World σ α) : Prop where
  now_eq : after.now = before.now
  plans_eq : after.store.plans = before.store.plans

/-- A pass has been interrupted between the two messages to a target: the text message is the last
one that it has sent, and has gone out. -/
def Interrupted (id : Int) (target : TargetRecord) (before after : World σ α) : Prop :=
  (after.store.campaign? id).map Campaign.status = some .paused ∧
    ∃ rows row, after.store.messages = before.store.messages ++ rows ++ [row] ∧
      row.IsAbout id target .sms ∧ row.status.isSuccess = true

namespace Pass

/-! ## What a later pass starts with -/

theorem compileIn_plans {before after : Store α} {old new : Campaign α}
    (same : after.plans = before.plans) (plan : new.plan = old.plan) :
    compileIn after new = compileIn before old := by
  have definitions : after.definitions = before.definitions := (congrArg Store.definitions same :)
  have target : new.target = old.target := (congrArg Campaign.target plan :)
  have tenant : new.tenant = old.tenant := (congrArg Campaign.tenant plan :)
  have filter : new.filter = old.filter := (congrArg Campaign.filter plan :)
  simp only [compileIn, Registry.rows, definitions, target, tenant, filter]

theorem excludedIn_plan {now : Moment} {store : Store α} {old new : Campaign α}
    (plan : new.plan = old.plan) : excludedIn now store new = excludedIn now store old := by
  have id : new.id = old.id := (congrArg Campaign.id plan :)
  have target : new.target = old.target := (congrArg Campaign.target plan :)
  have days : new.cooldownDays = old.cooldownDays := (congrArg Campaign.cooldownDays plan :)
  simp only [excludedIn, cooledIn, id, target, days, isAutomated_of_plan plan]

omit [Amount α] in
theorem cooledIn_active {now : Moment} {before after : Store α} {campaign : Campaign α}
    {first later : List Int} (left : cooledIn now before campaign = .ok first)
    (leaves : cooledIn now after campaign = .ok later) : (first = [] ∧ later = []) ∨ ∃ since,
      first = CooldownLedger.activeIn before campaign.id campaign.target since ∧
      later = CooldownLedger.activeIn after campaign.id campaign.target since := by
  obtain ⟨positive, isPositive, left⟩ := ok_of_bind left
  obtain ⟨positive', isPositive', leaves⟩ := ok_of_bind leaves
  cases isPositive.symm.trans isPositive'
  cases positive with
  | false =>
    cases left
    cases leaves
    exact .inl ⟨rfl, rfl⟩
  | true =>
    obtain ⟨since, window, left⟩ := ok_of_bind left
    obtain ⟨since', window', leaves⟩ := ok_of_bind leaves
    cases window.symm.trans window'
    obtain ⟨id, fits, left⟩ := ok_of_bind left
    obtain ⟨id', fits', leaves⟩ := ok_of_bind leaves
    cases fitted_eq fits
    cases fitted_eq fits'
    cases left
    cases leaves
    exact .inr ⟨since, rfl, rfl⟩

omit [Amount α] in
/-- A later pass leaves out those whom the first one left out and those who have been reached. -/
theorem excludedIn_reached {now : Moment} {before after : Store α} {campaign : Campaign α}
    (once : campaign.isAutomated = false) (cools : CoolsReached campaign before after)
    {first later : List Int} (left : excludedIn now before campaign = .ok first)
    (leaves : excludedIn now after campaign = .ok later) :
    ∀ target ∈ later, target ∈ first ∨
      target ∈ Lifecycle.messagedIn after campaign.id campaign.target := by
  obtain ⟨cooled, isCooled, left⟩ := ok_of_bind left
  obtain ⟨cooled', isCooled', leaves⟩ := ok_of_bind leaves
  simp only [once, Bool.false_eq_true, ↓reduceIte, pure, Except.pure, Except.ok.injEq] at left leaves
  subst left
  subst leaves
  intro target member
  rcases List.mem_append.mp member with active | reached
  · rcases cooledIn_active isCooled isCooled' with ⟨rfl, rfl⟩ | ⟨since, rfl, rfl⟩
    · cases active
    · exact (cools since target active).imp_left fun there => List.mem_append_left _ there
  · exact .inr reached

section Later

variable {engine : Engine σ α} {start world middle : World σ α} {id : Int} {first old : Campaign α}
  {predicate : Predicate} {excluded : List Int} {setting : Setting α}
  (outset : Outset start id first predicate excluded) (frozen : Frozen start world)
  (walks : Walks engine id world setting middle)

include outset frozen

omit walks in
/-- The campaign of a later pass is the one of the first pass, as far as that was planned. -/
theorem plan_eq (found : world.store.campaign? id = some old) : old.plan = first.plan := by
  obtain ⟨planned, there, plan⟩ := campaign?_of_plans frozen.plans_eq found
  cases there.symm.trans outset.found
  exact plan

include walks

theorem Walks.plan_eq : setting.campaign.plan = first.plan := by
  obtain ⟨old, claims, _⟩ := walks.claims
  rw [claims.campaign_eq]
  exact (show (claimed world.now old).plan = old.plan from rfl).trans
    (Pass.plan_eq outset frozen claims.found)

theorem Walks.audience_eq : setting.audience = first.audience predicate start := by
  obtain ⟨old, claims, compiled, compiles, audience⟩ := walks.claims
  have plan := Pass.plan_eq outset frozen claims.found
  rw [compileIn_plans frozen.plans_eq plan, outset.compiled] at compiles
  cases compiles
  have tenant : old.tenant = first.tenant := (congrArg Campaign.tenant plan :)
  rw [audience, Campaign.audience, tenant, frozen.now_eq]

omit outset in
theorem Walks.plans_eq : middle.store.plans = start.store.plans := by
  obtain ⟨old, claims, _⟩ := walks.claims
  exact claims.plans_eq.trans frozen.plans_eq

theorem Walks.selected_eq : setting.audience.selected middle.store =
    (first.audience predicate start).selected start.store := by
  rw [walks.audience_eq outset frozen, Audience.selected, Audience.records, Audience.after,
    Store.targets_of_plans (walks.plans_eq frozen)]
  rfl

/-- The size of the audience is known, or found out again, and it limits the walk. -/
theorem Walks.count_eq_selected (reads : engine.batchSize ≠ 0)
    (known : ∀ old, world.store.campaign? id = some old → old.targetCount = .int 0 ∨
      old.targetCount = .int ((first.audience predicate start).selected start.store).length) :
    setting.count = .int ((first.audience predicate start).selected start.store).length := by
  obtain ⟨old, claims, _⟩ := walks.claims
  have orderly : Orderly middle.store := outset.orderly.of_plans (walks.plans_eq frozen)
  have ends : Ends (targetCount engine setting.campaign setting.audience) middle fun result _ =>
      ∀ count, result = .ok count →
        count = .int ((first.audience predicate start).selected start.store).length := by
    rw [targetCount]
    cases fixed : knownCount setting.campaign with
    | none =>
      dsimp only
      rw [ends_bind]
      refine Leads.mono (Audience.count_ends reads orderly.created (orderly.targets _)) ?_
      rintro (failure | counted) after counts count same
      · cases same
      · cases same
        rw [counts counted rfl, walks.selected_eq outset frozen]
    | some most =>
      rw [claims.campaign_eq, knownCount] at fixed
      split at fixed
      · cases fixed
      · rename_i unfixed
        cases fixed
        rintro count ⟨⟩
        refine (known old claims.found).resolve_left fun none => unfixed ?_
        rw [show (claimed world.now old).targetCount = old.targetCount from rfl, none]
        exact Bool.or_true _
  exact ends _ walks.count_eq

theorem Walks.admits_selected (reads : engine.batchSize ≠ 0)
    (known : ∀ old, world.store.campaign? id = some old → old.targetCount = .int 0 ∨
      old.targetCount = .int ((first.audience predicate start).selected start.store).length) :
    Audience.Admits setting.limit (setting.audience.selected middle.store).length := by
  have limit := walks.limit_eq
  rw [walks.count_eq_selected outset frozen reads known] at limit
  rw [walks.selected_eq outset frozen]
  rw [← Except.ok.inj limit]
  rintro most ⟨⟩
  exact Int.le_refl _

/-- A later pass leaves out those whom the first one left out, and those who have been reached. -/
theorem Walks.excludes_reached (cools : CoolsReached first start.store world.store) (target : Int)
    (excludes : setting.excluded.contains target = true) : excluded.contains target = true ∨
      target ∈ Lifecycle.messagedIn world.store id first.target := by
  obtain ⟨old, claims, _⟩ := walks.claims
  have plan := walks.plan_eq outset frozen
  have leaves := walks.excluded_eq
  rw [excludedIn_plan plan, claims.now_eq, frozen.now_eq] at leaves
  have cools : CoolsReached first start.store middle.store := by
    rw [claims.middle_eq]
    exact cools
  have reached := excludedIn_reached outset.once cools outset.excluded_eq leaves target
    (List.contains_iff_mem.mp excludes)
  rw [← campaign?_id outset.found]
  refine reached.imp List.contains_iff_mem.mpr fun member => ?_
  rw [claims.middle_eq] at member
  exact member

theorem Walks.cools_first {later : Store α}
    (cools : CoolsReached setting.campaign middle.store later) :
    CoolsReached first world.store later := by
  obtain ⟨old, claims, _⟩ := walks.claims
  have plan := walks.plan_eq outset frozen
  have id : setting.campaign.id = first.id := (congrArg Campaign.id plan :)
  have target : setting.campaign.target = first.target := (congrArg Campaign.target plan :)
  have same : middle.store.cooldowns = world.store.cooldowns := by rw [claims.middle_eq]; rfl
  simpa only [CoolsReached, CooldownLedger.activeIn, id, target, same] using cools

end Later

end Pass

/-! ## One pass of a run -/

/-- Where a campaign stands in a run, by what has been settled with its targets so far. While it may
still send something, whoever it has reached is settled, and in the end everybody is. -/
inductive Stands (start : World σ α) (id : Int) (first : Campaign α) (all : List TargetRecord)
    (excluded : List Int) (settled : TargetRecord → Channel → Prop) (world : World σ α) : Prop
  | stuck {campaign : Campaign α} (found : world.store.campaign? id = some campaign)
      (waits : campaign.status.waits = false) (unfinished : campaign.status ≠ .completed)
  | waiting {campaign : Campaign α} (found : world.store.campaign? id = some campaign)
      (waits : campaign.status.waits = true)
      (known : campaign.targetCount = .int 0 ∨ campaign.targetCount = .int all.length)
      (cools : Pass.CoolsReached first start.store world.store)
      (reached : ∀ target ∈ all, excluded.contains target.id = false →
        target.id ∈ Lifecycle.messagedIn world.store id first.target →
          ∀ channel ∈ channelsFor first.reach target, settled target channel)
  | completed {campaign : Campaign α} (found : world.store.campaign? id = some campaign)
      (status : campaign.status = .completed)
      (every : ∀ target ∈ all, excluded.contains target.id = false →
        ∀ channel ∈ channelsFor first.reach target, settled target channel)

/-- What is settled behind an event, by what was settled before it. -/
def Reckoned (settled : TargetRecord → Channel → Prop) (id : Int) (before after : World σ α)
    (target : TargetRecord) (channel : Channel) : Prop :=
  settled target channel ∨ (∃ row ∈ after.store.messages, row.IsAbout id target channel) ∨
    channel = .email ∧ Interrupted id target before after

section Passes

variable {engine : Engine σ α} {start world : World σ α} {id : Int} {first : Campaign α}
  {all : List TargetRecord} {excluded : List Int} {settled : TargetRecord → Channel → Prop}

omit [Amount α] in
theorem Stands.mono {weaker : TargetRecord → Channel → Prop}
    (stands : Stands start id first all excluded settled world)
    (weaken : ∀ target channel, settled target channel → weaker target channel) :
    Stands start id first all excluded weaker world := by
  cases stands with
  | stuck found waits unfinished => exact .stuck found waits unfinished
  | waiting found waits known cools reached =>
    exact .waiting found waits known cools fun target member admits there channel on =>
      weaken _ _ (reached target member admits there channel on)
  | completed found status every =>
    exact .completed found status fun target member admits channel on =>
      weaken _ _ (every target member admits channel on)

omit [Amount α] in
theorem Stands.of_stuck (stuck : Stuck id world.store) :
    Stands start id first all excluded settled world := by
  obtain ⟨campaign, found, status⟩ := stuck
  rcases status with sending | failed
  · exact .stuck found (by rw [sending]; rfl) (by rw [sending]; exact CampaignStatus.noConfusion)
  · exact .stuck found (by rw [failed]; rfl) (by rw [failed]; exact CampaignStatus.noConfusion)

section Walks

variable {middle after : World σ α} {predicate : Predicate} {setting : Pass.Setting α}
  {later : Store α} (outset : Outset start id first predicate excluded)
  (frozen : Frozen start world) (walks : Pass.Walks engine id world setting middle)
  (cools : Pass.CoolsReached first start.store world.store)
  (reached : ∀ target ∈ all, excluded.contains target.id = false →
    target.id ∈ Lifecycle.messagedIn world.store id first.target →
      ∀ channel ∈ channelsFor first.reach target, settled target channel)

include outset frozen walks cools reached

/-- A target that only a later pass leaves out has been settled before. -/
theorem settled_of_excluded {target : TargetRecord} (member : target ∈ all)
    (admits : excluded.contains target.id = false)
    (excludes : setting.excluded.contains target.id = true) {channel : Channel}
    (on : channel ∈ channelsFor first.reach target) : settled target channel := by
  rcases walks.excludes_reached outset frozen cools target.id excludes with first | there
  · rw [admits] at first
    exact absurd first Bool.false_ne_true
  · exact reached target member admits there channel on

/-- A target that a walk has gone over is settled. -/
theorem reckoned_of_covers {done : List TargetRecord} {rows : List (Message α)}
    (covers : Pass.Covers setting done rows) (grows : rows ⊆ after.store.messages)
    {target : TargetRecord} (member : target ∈ all) (passed : target ∈ done)
    (admits : excluded.contains target.id = false) {channel : Channel}
    (on : channel ∈ channelsFor first.reach target) :
    Reckoned settled id world after target channel := by
  obtain ⟨old, claims, _⟩ := walks.claims
  have reach : setting.campaign.reach = first.reach :=
    (congrArg Campaign.reach (walks.plan_eq outset frozen) :)
  cases excludes : setting.excluded.contains target.id with
  | true =>
    exact .inl (settled_of_excluded outset frozen walks cools reached member admits excludes on)
  | false =>
    obtain ⟨row, there, about⟩ := covers.all target passed excludes channel (reach ▸ on)
    rw [claims.id_eq] at about
    exact .inr (.inl ⟨row, grows there, about⟩)

/-- Whoever a halted walk has reached is settled, if only by the interruption. -/
theorem reckoned_of_halted (halted : Pass.Halted setting middle.store all later)
    (ids : (all.map TargetRecord.id).Nodup) (logged : after.store.messages = later.messages)
    (paused : (after.store.campaign? id).map Campaign.status = some .paused)
    {target : TargetRecord} (member : target ∈ all) (admits : excluded.contains target.id = false)
    (got : target.id ∈ Lifecycle.messagedIn after.store id first.target) {channel : Channel}
    (on : channel ∈ channelsFor first.reach target) :
    Reckoned settled id world after target channel := by
  obtain ⟨old, claims, _⟩ := walks.claims
  obtain ⟨done, last, rows, added, further, covers, messages, ends⟩ := halted.logged
  rw [messages, claims.messages_eq] at logged
  have only : ∀ other ∈ done ++ [last], other.id = target.id → other = target :=
    fun other there same => List.inj_on_of_nodup_map ids (further.subset there) member same
  obtain ⟨row, there, campaign, kind, success, about⟩ := mem_messagedIn.mp got
  rw [logged, List.append_assoc, List.mem_append, List.mem_append] at there
  rcases there with before | new | new
  · exact .inl (reached target member admits (mem_messagedIn.mpr
      ⟨row, before, campaign, kind, success, about⟩) channel on)
  · obtain ⟨other, passed, same⟩ := List.mem_map.mp (covers.within row new)
    cases only other (List.mem_append_left _ passed) (same.trans about)
    refine reckoned_of_covers outset frozen walks cools reached covers ?_ member passed admits on
    rw [logged, List.append_assoc]
    exact fun row there => List.mem_append_right _ (List.mem_append_left _ there)
  · rcases ends with rfl | ⟨text, rfl, isAbout⟩
    · cases new
    · cases List.mem_singleton.mp new
      cases only last (List.mem_append_right _ (List.mem_singleton_self last))
        (isAbout.2.2.1.symm.trans about)
      rw [claims.id_eq] at isAbout
      cases channel with
      | sms =>
        refine .inr (.inl ⟨row, ?_, isAbout⟩)
        rw [logged]
        exact List.mem_append_right _ (List.mem_singleton_self row)
      | email => exact .inr (.inr ⟨rfl, paused, rows, row, logged, isAbout, success⟩)

end Walks

/-- A calm pass leaves its campaign stuck, paused with everybody it has reached settled, or
completed with everybody settled. -/
theorem execute_stands (calm : engine.IsCalm) (reads : engine.batchSize ≠ 0) {predicate : Predicate}
    (outset : Outset start id first predicate excluded) (frozen : Frozen start world)
    (stands : Stands start id first ((first.audience predicate start).selected start.store) excluded
      settled world) :
    Ends (Pass.execute engine id) world fun _ after =>
      Stands start id first ((first.audience predicate start).selected start.store) excluded
        (Reckoned settled id world after) after := by
  have closes : ∀ {middle : World σ α} {campaign : Campaign α} {isTest ledger failure},
      Stuck id middle.store →
        Ends (Pass.close campaign isTest ledger (.error failure)) middle fun _ after =>
          Stands start id first ((first.audience predicate start).selected start.store) excluded
            (Reckoned settled id world after) after :=
    fun {middle campaign isTest ledger failure} stuck =>
      ((Pass.close_stuck id campaign isTest ledger failure).leads middle).mono fun _ _ keeps =>
        .of_stuck (keeps stuck)
  refine Pass.execute_ends ?_ ?_ ?_
  · exact fun _ => stands.mono fun _ _ => .inl
  · intro old campaign isTest count failure middle claims
    exact closes ⟨campaign, claims.found_claimed, .inl (by rw [claims.campaign_eq]; rfl)⟩
  · intro setting middle walks
    obtain ⟨old, claims, _⟩ := walks.claims
    have orderly : Orderly middle.store := outset.orderly.of_plans (walks.plans_eq frozen)
    have once : setting.campaign.isAutomated = false :=
      (isAutomated_of_plan (walks.plan_eq outset frozen)).trans outset.once
    have sending : setting.campaign.status = .sending := by rw [claims.campaign_eq]; rfl
    cases stands with
    | stuck found waits _ =>
      cases found.symm.trans claims.found
      rw [CampaignStatus.waits, claims.runnable] at waits
      exact absurd waits Bool.noConfusion
    | completed found status _ =>
      cases found.symm.trans claims.found
      have runnable := claims.runnable
      rw [status] at runnable
      exact absurd runnable Bool.noConfusion
    | waiting found waits known cools reached =>
      have known : ∀ old, world.store.campaign? id = some old → old.targetCount = .int 0 ∨
          old.targetCount = .int ((first.audience predicate start).selected start.store).length :=
        fun old there => by cases found.symm.trans there; exact known
      have word : setting.audience.kind.name = setting.campaign.target := by
        rw [walks.audience_eq outset frozen]
        exact (Pass.compileIn_target outset.compiled).trans
          (congrArg Campaign.target (walks.plan_eq outset frozen) :).symm
      refine Leads.mono ((Pass.walk_tours calm reads orderly word
        (walks.admits_selected outset frozen reads known)).and
          ((calm.walk_campaigns setting).leads middle)) ?_
      rintro ⟨progress, _ | failure⟩ later ⟨toured, same⟩
      · have there : later.store.campaign? setting.campaign.id = some setting.campaign := by
          rw [Store.campaign?, show later.store.campaigns = middle.store.campaigns from same,
            claims.id_eq]
          exact claims.found_claimed
        refine Leads.mono ((Pass.conclude_left calm there sending once).and
          ((Pass.conclude_moves calm.settles_ledgers setting (progress, none)).leads later)) ?_
        rintro result after ⟨⟨left, foundLeft, leftAs⟩, ledgers⟩
        rw [claims.id_eq] at foundLeft
        rw [walks.selected_eq outset frozen] at toured
        have logged : after.store.messages = later.store.messages := congrArg Prod.fst ledgers
        dsimp only at leftAs toured
        generalize progress.stopped = stopped at leftAs toured
        cases leftAs with
        | stuck _ status => exact .of_stuck ⟨left, foundLeft, status⟩
        | paused status counted =>
          obtain ⟨_, none⟩ | ⟨halted, _⟩ := toured
          · cases none
          have count := walks.count_eq_selected outset frozen reads known
          refine .waiting foundLeft (by rw [status]; rfl) (.inr (counted.trans count)) ?_ ?_
          · refine (cools.trans (walks.cools_first outset frozen halted.cools) ?_).of_ledgers ledgers
            obtain ⟨done, last, rows, added, _, _, messages, _⟩ := halted.logged
            rw [messages, claims.messages_eq, List.append_assoc]
            exact List.subset_append_left _ _
          · exact fun target member admits got channel on =>
              reckoned_of_halted outset frozen walks cools reached halted
                (Audience.selected_nodup (outset.orderly.targets _)) logged
                (by rw [foundLeft, Option.map_some, status]) member admits got on
        | completed status counted =>
          obtain ⟨toured, _⟩ | ⟨_, some⟩ := toured
          · obtain ⟨rows, messages, covers⟩ := toured.logged
            refine .completed foundLeft status fun target member admits channel on =>
              reckoned_of_covers outset frozen walks cools reached covers ?_ member member admits on
            rw [logged, messages]
            exact List.subset_append_right _ _
          · cases some
      · have there : later.store.campaign? id = some setting.campaign := by
          rw [Store.campaign?, show later.store.campaigns = middle.store.campaigns from same]
          exact claims.found_claimed
        exact closes ⟨setting.campaign, there, .inl sending⟩

end Passes

end Herald
