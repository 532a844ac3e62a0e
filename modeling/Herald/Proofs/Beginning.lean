import Herald.Proofs.Frame
import Herald.Proofs.Stages

/-! # What a pass begins with

Before its walk a pass writes nothing but its claim, and everything the walk depends on is settled
then: the campaign, the audience, the targets that are left out and how many are visited at most.
Behind `execute_ends` what a pass does is a matter of its walk and of what follows.
-/

namespace Herald.Pass

variable {σ α : Type}

/-- A campaign that has been claimed for a pass. -/
def claimed (now : Moment) (campaign : Campaign α) : Campaign α :=
  { campaign with
    status := .sending, startedAt := campaign.startedAt.or (some now), pauseReason := none
    updatedAt := now }

@[simp] theorem claimed_id (now : Moment) (campaign : Campaign α) :
    (claimed now campaign).id = campaign.id := rfl

/-- The compiled filter of a campaign, in terms of the tables. -/
def compileIn (store : Store α) (campaign : Campaign α) : Except Failure Predicate := do
  let _ ← Registry.targetNamed campaign.target
  let schema ← Registry.schemaOf campaign.tenant campaign.target
    (Registry.rows store campaign.tenant campaign.target)
  Predicate.compileRaw schema campaign.filter

/-- The targets of a campaign in cooldown, in terms of the tables. -/
def cooledIn (now : Moment) (store : Store α) (campaign : Campaign α) :
    Except Failure (List Int) := do
  if !(← campaign.cooldownDays.isPositive) then return []
  let start ← CooldownLedger.windowStart now campaign.cooldownDays
  return CooldownLedger.activeIn store (← Cell.fitted campaign.id) campaign.target start

/-- The targets that a pass leaves out, in terms of the tables. -/
def excludedIn (now : Moment) (store : Store α) (campaign : Campaign α) :
    Except Failure (List Int) := do
  let cooled ← cooledIn now store campaign
  return if campaign.isAutomated then cooled
    else cooled ++ Lifecycle.messagedIn store campaign.id campaign.target

section Reads

variable {world : World σ α} (created : world.store.created = true)

include created

theorem compile_ends {campaign : Campaign α} {after : Except Failure Predicate → World σ α → Prop} :
    Ends (compile campaign) world after ↔ after (compileIn world.store campaign) world := by
  rw [compile, Registry.load, ends_bind, ends_bind, ends_pure?, compileIn]
  cases Registry.targetNamed campaign.target with
  | error failure => exact Iff.rfl
  | ok kind =>
    dsimp only
    rw [ends_bind, ends_query created]
    dsimp only
    rw [ends_pure?]
    cases Registry.schemaOf campaign.tenant campaign.target
        (Registry.rows world.store campaign.tenant campaign.target) with
    | error failure => exact Iff.rfl
    | ok schema => exact ends_pure?

theorem excludedTargets_ends {campaign : Campaign α}
    {after : Except Failure (List Int) → World σ α → Prop} :
    Ends (excludedTargets campaign) world after ↔
      after (excludedIn world.now world.store campaign) world := by
  have cooled : ∀ {after : Except Failure (List Int) → World σ α → Prop},
      Ends (CooldownLedger.activeTargets campaign.id campaign.target campaign.cooldownDays none)
        world after ↔ after (cooledIn world.now world.store campaign) world := by
    intro after
    rw [CooldownLedger.activeTargets, ends_bind, ends_pure?, cooledIn]
    cases campaign.cooldownDays.isPositive with
    | error failure => exact Iff.rfl
    | ok positive =>
      cases positive with
      | false => exact Iff.rfl
      | true =>
        simp only [Bool.not_true, Bool.false_eq_true, ↓reduceIte, ends_bind, ends_clock, ends_pure?]
        cases CooldownLedger.windowStart world.now campaign.cooldownDays with
        | error failure => exact Iff.rfl
        | ok start => exact ends_consult created
  rw [excludedTargets, ends_bind, cooled, excludedIn]
  cases cooledIn world.now world.store campaign with
  | error failure => exact Iff.rfl
  | ok ids =>
    dsimp only
    by_cases automated : campaign.isAutomated = true
    · simp only [automated, ↓reduceIte]
      exact Iff.rfl
    · simp only [automated, Bool.false_eq_true, ↓reduceIte, ends_bind, ends_query created]
      exact Iff.rfl

theorem get?_ends {id : Int} {after : Except Failure (Option (Campaign α)) → World σ α → Prop} :
    Ends (Lifecycle.get? id none) world after ↔
      after ((Cell.fitted id).map world.store.campaign?) world := by
  rw [Lifecycle.get?, ends_consult created]
  cases Cell.fitted id with
  | error failure => exact Iff.rfl
  | ok fit =>
    simp only [bind, Except.bind, pure, Except.pure, Option.all_none, Except.map]
    cases world.store.campaign? fit <;> exact Iff.rfl

end Reads

/-- A claim that has succeeded: the campaign stood where a pass may begin, and its claim is all that
has been written. -/
structure Claims (id : Int) (world : World σ α) (old campaign : Campaign α)
    (middle : World σ α) : Prop where
  created : world.store.created = true
  fits : Cell.fits id = true
  found : world.store.campaign? id = some old
  runnable : old.status.isRunnable = true
  campaign_eq : campaign = claimed world.now old
  middle_eq : middle = { world with
    store := world.store.updateCampaign id (fun campaign => campaign.status.isRunnable)
      (claimed world.now) }

namespace Claims

variable {id : Int} {world middle : World σ α} {old campaign : Campaign α}

theorem id_eq (claims : Claims id world old campaign middle) : campaign.id = id := by
  rw [claims.campaign_eq, claimed_id]
  exact campaign?_id claims.found

/-- The campaign is found as it has been claimed. -/
theorem found_claimed (claims : Claims id world old campaign middle) :
    middle.store.campaign? id = some campaign := by
  rw [claims.middle_eq, claims.campaign_eq]
  refine (campaign?_updateCampaign _ id id _ (claimed_id world.now)).trans ?_
  simp only [claims.found, Option.map_some, campaign?_id claims.found, claims.runnable, BEq.rfl,
    Bool.and_self, ↓reduceIte]

theorem now_eq (claims : Claims id world old campaign middle) : middle.now = world.now := by
  rw [claims.middle_eq]

theorem created_after (claims : Claims id world old campaign middle) :
    middle.store.created = true := by
  rw [claims.middle_eq]
  exact claims.created

theorem messages_eq (claims : Claims id world old campaign middle) :
    middle.store.messages = world.store.messages := by
  rw [claims.middle_eq]
  rfl

end Claims

/-- A campaign that may begin is claimed. -/
theorem begin_ends {id : Int} {world : World σ α} {old : Campaign α}
    (created : world.store.created = true) (fitted : Cell.fitted id = .ok id)
    (found : world.store.campaign? id = some old) (runnable : old.status.isRunnable = true)
    {after : Except Failure (Option (Campaign α)) → World σ α → Prop} :
    Ends (Lifecycle.begin id) world after ↔
      after (.ok (some (claimed world.now old))) { world with
        store := world.store.updateCampaign id (fun campaign => campaign.status.isRunnable)
          (claimed world.now) } := by
  have claims : (world.store.updateCampaign id (fun campaign => campaign.status.isRunnable)
      (claimed world.now)).campaign? id = some (claimed world.now old) := by
    rw [campaign?_updateCampaign _ _ _ _ (claimed_id world.now), found]
    simp [campaign?_id found, runnable]
  rw [Lifecycle.begin, ends_bind, ends_clock]
  dsimp only
  rw [ends_bind, Lifecycle.transition, ends_bind, ends_clock]
  dsimp only
  rw [ends_commit created]
  simp only [fitted, bind, Except.bind, pure, Except.pure, found, Option.any_some, runnable,
    ↓reduceIte]
  let middle : World σ α := { world with
    store := world.store.updateCampaign id (fun campaign => campaign.status.isRunnable)
      (claimed world.now) }
  have kept : middle.store.created = true := created
  change Ends (Lifecycle.get? id none) middle after ↔ after _ middle
  rw [get?_ends kept, fitted]
  exact iff_of_eq (congrArg (fun found => after (.ok found) middle) claims)

theorem unclaimed_of_blank {id : Int} {world : World σ α} (blank : world.store.created = false)
    {after : Except Failure (Campaign α × Predicate) → World σ α → Prop} :
    Ends (claim id) world after ↔ after (.error .noDatabase) world := by
  simp only [claim, runnable, Lifecycle.get?, Run.consult, ends_bind, ends_get, blank,
    Bool.false_eq_true, ↓reduceIte, ends_throw]

/-- A pass that is refused has written nothing. -/
theorem claim_ends (id : Int) (world : World σ α) :
    Ends (claim id) world fun result middle =>
      match result with
      | .error _ => middle = world
      | .ok (campaign, predicate) => ∃ old, Claims id world old campaign middle ∧
          compileIn world.store old = .ok predicate := by
  cases created : world.store.created with
  | false => exact (unclaimed_of_blank created).mpr rfl
  | true =>
    cases fits : Cell.fits id with
    | false =>
      rw [claim, ends_bind, runnable, ends_bind, get?_ends created, Cell.fitted, fits]
      exact rfl
    | true =>
      have fitted : Cell.fitted id = .ok id := by rw [Cell.fitted, fits]; rfl
      rw [claim, ends_bind, runnable, ends_bind, get?_ends created, fitted]
      cases found : world.store.campaign? id with
      | none =>
        simp only [Except.map, found]
        exact rfl
      | some old =>
        simp only [Except.map, found]
        by_cases runnable : old.status.isRunnable = true
        · rw [if_pos runnable, ends_pure]
          dsimp only
          rw [ends_bind, compile_ends created]
          cases compiled : compileIn world.store old with
          | error failure => exact rfl
          | ok predicate =>
            dsimp only
            rw [ends_bind, begin_ends created fitted found runnable]
            exact ⟨old, ⟨created, fits, found, runnable, rfl, rfl⟩, compiled⟩
        · rw [if_neg runnable]
          exact rfl

/-- A pass that has come to its walk: it has claimed the campaign and read, from the tables at its
start, everything that the walk depends on. -/
structure Walks (engine : Engine σ α) (id : Int) (world : World σ α) (setting : Setting α)
    (middle : World σ α) : Prop where
  claims : ∃ old, Claims id world old setting.campaign middle ∧
    ∃ predicate, compileIn world.store old = .ok predicate ∧
      setting.audience = ⟨old.tenant, predicate.target, predicate, world.now.date⟩
  count_eq : ((targetCount engine setting.campaign setting.audience).run.run middle).1 =
    .ok setting.count
  excluded_eq : excludedIn middle.now middle.store setting.campaign = .ok setting.excluded
  limit_eq : setting.count.limit? = .ok setting.limit

/-- How far a pass has come by its start, and that it has written no more than its claim. -/
def Begins (engine : Engine σ α) (id : Int) (world middle : World σ α) : Start α → Prop
  | .refused _ => middle = world
  | .unprepared campaign _ _ _ => ∃ old, Claims id world old campaign middle
  | .walks setting => Walks engine id world setting middle

theorem prepare_ends (engine : Engine σ α) (campaign : Campaign α) (predicate : Predicate)
    (world : World σ α) :
    Ends (prepare engine campaign predicate) world fun result after =>
      after = world ∧ ∀ audience count, result = .ok (audience, count) →
        audience = ⟨campaign.tenant, predicate.target, predicate, world.now.date⟩ ∧
          ((targetCount engine campaign audience).run.run world).1 = .ok count := by
  have still : Moves Eq (targetCount engine campaign
      ⟨campaign.tenant, predicate.target, predicate, world.now.date⟩).run := targetCount_moves _ _
  rw [prepare, audienceOf, ends_bind, ends_bind, ends_clock]
  dsimp only
  rw [ends_pure]
  dsimp only
  rw [ends_bind, Ends, leads_iff_of_still still]
  cases counted : ((targetCount engine campaign _).run.run world).1 with
  | error failure => exact ⟨rfl, fun _ _ same => by cases same⟩
  | ok count =>
    refine ⟨rfl, fun audience found same => ?_⟩
    cases same
    exact ⟨rfl, counted⟩

/-- Up to its walk a pass has written its claim and nothing else. -/
theorem start_leads (engine : Engine σ α) (id : Int) (world : World σ α) :
    Leads (start engine id) world fun begun middle => Begins engine id world middle begun := by
  rw [start, leads_bind]
  refine Leads.mono (claim_ends id world) ?_
  rintro (failure | ⟨campaign, predicate⟩) middle claims
  · exact claims
  · obtain ⟨old, claims, compiled⟩ := claims
    dsimp only
    rw [leads_bind]
    refine Leads.mono (prepare_ends engine campaign predicate middle) ?_
    rintro (failure | ⟨audience, count⟩) middle ⟨rfl, prepared⟩
    · exact ⟨old, claims⟩
    · obtain ⟨audience_eq, count_eq⟩ := prepared audience count rfl
      dsimp only
      rw [leads_bind, leads_run, excludedAndLimit, ends_bind,
        excludedTargets_ends claims.created_after]
      cases excluded : excludedIn middle.now middle.store campaign with
      | error failure => exact ⟨old, claims⟩
      | ok ids =>
        dsimp only
        rw [ends_bind, ends_pure?]
        cases limit : count.limit? with
        | error failure => exact ⟨old, claims⟩
        | ok most =>
          refine ⟨⟨old, claims, predicate, compiled, ?_⟩, count_eq, excluded, limit⟩
          rw [audience_eq, claims.now_eq, claims.campaign_eq]
          rfl

/-- A pass walks as a simulation exactly if its settings or its campaign say so. -/
theorem start_isTest (engine : Engine σ α) (id : Int) (world : World σ α) :
    Leads (start engine id) world fun begun _ => ∀ setting, begun = .walks setting →
      setting.isTest = isMock engine.settings setting.campaign := by
  rw [start, leads_bind]
  refine (leads_true _ _).mono ?_
  rintro (failure | ⟨campaign, predicate⟩) middle _
  · rintro _ ⟨⟩
  dsimp only
  rw [leads_bind]
  refine (leads_true _ _).mono ?_
  rintro (failure | ⟨audience, count⟩) middle _
  · rintro _ ⟨⟩
  dsimp only
  rw [leads_bind]
  refine (leads_true _ _).mono ?_
  rintro (failure | ⟨excluded, limit⟩) middle _
  · rintro _ ⟨⟩
  · rintro _ ⟨⟩
    rfl

/-- A pass walks with the campaign that it has found, as it has claimed it. -/
theorem start_finds {engine : Engine σ α} {id : Int} {world : World σ α} {old : Campaign α}
    (found : world.store.campaign? id = some old) :
    Leads (start engine id) world fun begun _ => ∀ setting, begun = .walks setting →
      setting.campaign = claimed world.now old ∧ setting.isTest = isMock engine.settings old := by
  refine ((start_leads engine id world).and (start_isTest engine id world)).mono ?_
  rintro _ middle ⟨begins, isTest⟩ setting rfl
  obtain ⟨first, claims, _⟩ := begins.claims
  have same : first = old := Option.some.inj (claims.found.symm.trans found)
  have campaign : setting.campaign = claimed world.now old := same ▸ claims.campaign_eq
  refine ⟨campaign, ?_⟩
  rw [isTest setting rfl, campaign]
  rfl

/-- A compiled filter selects targets of the campaign's kind. -/
theorem compileIn_target {store : Store α} {campaign : Campaign α} {predicate : Predicate}
    (compiled : compileIn store campaign = .ok predicate) :
    predicate.target.name = campaign.target := by
  obtain ⟨kind, _, compiled⟩ := ok_of_bind compiled
  obtain ⟨schema, loaded, compiled⟩ := ok_of_bind compiled
  obtain ⟨specs, _, loaded⟩ := ok_of_bind loaded
  have named : schema.target.name = campaign.target := by
    unfold AttributeSchema.ofSpecs at loaded
    cases known : TargetKind.ofName? campaign.target with
    | none => simp [known, Checked.complain] at loaded
    | some target =>
      have name : target.name = campaign.target := by
        simpa [TargetKind.ofName?] using List.find?_some known
      rw [known] at loaded
      dsimp only at loaded
      split at loaded
      · rename_i schema' valid
        cases loaded
        split at valid
        · cases valid
        · cases valid
          exact name
      · cases loaded
  rw [← named]
  unfold Predicate.compileRaw at compiled
  split at compiled
  · obtain ⟨conditions, _, compiled⟩ := ok_of_bind compiled
    split at compiled
    · cases compiled
    · cases compiled
      rfl
  · cases compiled

/-- A pass walks over targets of its campaign's kind. -/
theorem Walks.target_eq {engine : Engine σ α} {id : Int} {world middle : World σ α}
    {setting : Setting α} (walks : Walks engine id world setting middle) :
    setting.campaign.target = setting.audience.kind.name := by
  obtain ⟨old, claims, predicate, compiled, audience⟩ := walks.claims
  rw [claims.campaign_eq, audience]
  exact (compileIn_target compiled).symm

variable [Amount α]

theorem Claims.plans_eq {id : Int} {world middle : World σ α} {old campaign : Campaign α}
    (claims : Claims id world old campaign middle) :
    middle.store.plans = world.store.plans := by
  rw [claims.middle_eq]
  exact Store.plans_of_standing (standing_updateCampaign world.store id _ fun _ => rfl)

/-- What holds behind a pass, from what holds behind each of its stages. -/
theorem execute_ends {engine : Engine σ α} {id : Int} {world : World σ α}
    {after : Except Failure PassResult → World σ α → Prop}
    (refused : ∀ failure, after (.error failure) world)
    (unprepared : ∀ old campaign isTest count failure middle, Claims id world old campaign middle →
      Ends (close campaign isTest ⟨.start, count, false⟩ (.error failure)) middle after)
    (walks : ∀ setting middle, Walks engine id world setting middle →
      Leads (setting.walk engine) middle fun walked later =>
        Ends (setting.conclude engine walked) later after) :
    Ends (execute engine id) world after := by
  rw [execute_iff]
  refine (start_leads engine id world).mono ?_
  rintro (failure | ⟨campaign, isTest, count, failure⟩ | setting) middle begins
  · cases begins
    exact refused failure
  · obtain ⟨old, claims⟩ := begins
    exact unprepared old campaign isTest count failure middle claims
  · rw [Start.goOn, ends_bind, ends_lift]
    exact walks setting middle begins

end Herald.Pass
