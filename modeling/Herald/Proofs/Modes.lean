import Herald.Proofs.Conclusion

/-! # Modes

A pass is only simulated if the whole engine is in test mode or its campaign is marked as a test.
Neither matters for more than that: a simulated pass does the same in either mode, and up to its
walk it does what the live pass does.
-/

namespace Herald

variable {σ α κ : Type}

/-! ## Modes -/

/-- The engine in test mode or out of it. -/
def Engine.inTestMode (engine : Engine σ α) (testMode : Bool) : Engine σ α :=
  { engine with settings := { engine.settings with testMode } }

/-- The tables with the campaigns of an id marked as tests, or not. -/
def Store.marked (store : Store α) (id : Int) (isTest : Bool) : Store α :=
  store.updateCampaign id (fun _ => true) fun campaign => { campaign with isTest }

variable [Amount α]

/-- What does not look at what an outline leaves out is the same for campaigns of one outline. -/
theorem view_of_outline {f : Campaign α → κ}
    (blind : ∀ campaign : Campaign α, f campaign.outline = f campaign)
    {campaign other : Campaign α} (same : other.outline = campaign.outline) :
    f other = f campaign := by
  rw [← blind other, same, blind campaign]

section Simulated

variable (engine : Engine σ α) (testMode : Bool) {campaign other : Campaign α}
  (same : other.outline = campaign.outline)

include same

/-- Neither mode nor mark matters once a message is to be simulated. -/
theorem Send.message_inTestMode (target : TargetRecord) (channel : Channel) :
    Send.message (engine.inTestMode testMode) other true target channel =
      Send.message engine campaign true target channel :=
  view_of_outline (f := fun campaign =>
    Send.message (engine.inTestMode testMode) campaign true target channel) (fun _ => rfl) same

namespace Pass

theorem serve_inTestMode (target : TargetRecord) (channels : List Channel) (tally : Tally)
    (delivered : Bool) :
    serve (engine.inTestMode testMode) other true target channels tally delivered =
      serve engine campaign true target channels tally delivered := by
  induction channels generalizing tally delivered with
  | nil => rfl
  | cons channel rest ih =>
    rw [serve, serve, Send.message_inTestMode engine testMode same]
    simp only [ih]

theorem visit_inTestMode (excluded : List Int) :
    visit (engine.inTestMode testMode) other true excluded = visit engine campaign true excluded := by
  funext progress target
  have terms : (other.id, other.reach, other.target, other.tenant) =
      (campaign.id, campaign.reach, campaign.target, campaign.tenant) :=
    view_of_outline (f := fun campaign : Campaign α =>
      (campaign.id, campaign.reach, campaign.target, campaign.tenant)) (fun _ => rfl) same
  simp only [Prod.mk.injEq] at terms
  obtain ⟨id, reach, kind, tenant⟩ := terms
  simp only [visit, serve_inTestMode engine testMode same, id, reach, afterTarget, recordIf, kind,
    tenant]

end Pass

end Simulated

namespace Pass

section Simulated

variable (engine : Engine σ α) (testMode : Bool) {setting : Setting α} {other : Campaign α}
  (same : other.outline = setting.campaign.outline)

include same

/-- A simulated walk is the same in either mode. -/
theorem walk_inTestMode :
    { setting with campaign := other, isTest := true }.walk (engine.inTestMode testMode) =
      { setting with isTest := true }.walk engine := by
  simp only [Setting.walk, visit_inTestMode engine testMode same]
  rfl

/-- What follows a simulated walk is the same in either mode. -/
theorem conclude_inTestMode (walked : Progress × Option Failure) :
    { setting with campaign := other, isTest := true }.conclude (engine.inTestMode testMode) walked =
      { setting with isTest := true }.conclude engine walked := by
  obtain ⟨progress, failure?⟩ := walked
  exact view_of_outline (f := fun campaign : Campaign α =>
    ({ setting with campaign, isTest := true } : Setting α).conclude (engine.inTestMode testMode)
      (progress, failure?)) (fun _ => by cases failure? <;> rfl) same

end Simulated

/-! ## The start of a simulated pass -/

/-- Campaigns that agree in outline. -/
def SameOutline (campaign other : Campaign α) : Prop := other.outline = campaign.outline

section Start

variable {before : Store α} (engine : Engine σ α) (testMode : Bool)

theorem get?_outline (id : Int) :
    Abreast (Rehearses before : World σ α → World σ α → Prop)
      (BothEnd fun found found' => found'.map Campaign.outline = found.map Campaign.outline)
      (Lifecycle.get? id none : Run σ α (Option (Campaign α))).run
      (Lifecycle.get? id none : Run σ α (Option (Campaign α))).run := by
  intro live mock rehearses
  change Leads (Lifecycle.get? id none).run live fun found after =>
    Leads (Lifecycle.get? id none).run mock fun found' after' =>
      BothEnd (fun found found' => found'.map Campaign.outline = found.map Campaign.outline)
        found found' ∧ Rehearses before after after'
  cases created : live.store.created with
  | false =>
    have created' :=
      (Rehearses.shows.created_eq rehearses).trans created
    simp only [leads_run, Lifecycle.get?, Run.consult, ends_bind, ends_get, created, created',
      Bool.false_eq_true, ↓reduceIte, ends_throw]
    exact ⟨.error _, rehearses⟩
  | true =>
    rw [leads_run, get?_ends created, leads_run, get?_ends
      ((Rehearses.shows.created_eq rehearses).trans created)]
    cases (Cell.fitted id : Except Failure Int) with
    | error failure => exact ⟨.error failure, rehearses⟩
    | ok fit => exact ⟨.ok (Rehearses.shows.campaign?_eq fit rehearses), rehearses⟩

theorem runnable_outline (id : Int) :
    Abreast (Rehearses before : World σ α → World σ α → Prop) (BothEnd SameOutline)
      (runnable id : Run σ α (Campaign α)).run (runnable id : Run σ α (Campaign α)).run := by
  refine abreast_run_bind (get?_outline id) fun found found' same => ?_
  cases found with
  | none =>
    cases Option.map_eq_none_iff.mp same
    exact abreast_throw
  | some campaign =>
    obtain ⟨other, rfl, outline⟩ := Option.map_eq_some_iff.mp same
    have status : other.status = campaign.status :=
      view_of_outline (f := Campaign.status) (fun _ => rfl) outline
    dsimp only
    rw [status]
    split
    · exact abreast_run_pure outline
    · exact abreast_throw

theorem compile_alike {campaign other : Campaign α} (same : SameOutline campaign other) :
    Alike (Rehearses before : World σ α → World σ α → Prop)
      (compile campaign : Run σ α Predicate).run (compile other : Run σ α Predicate).run := by
  rw [show (compile other : Run σ α Predicate) = compile campaign from
    view_of_outline (fun _ => rfl) same]
  refine alike_run_bind (alike_run_bind alike_pure? fun _ => alike_run_bind
    (Rehearses.shows.query fun _ _ rehearses => ?_) fun _ => alike_pure?) fun _ => alike_pure?
  exact Rehearses.shows.seen
    (f := fun store => Registry.rows store campaign.tenant campaign.target) (fun _ => rfl) rehearses

theorem begin_outline (id : Int) :
    Abreast (Rehearses before : World σ α → World σ α → Prop)
      (BothEnd fun found found' => found'.map Campaign.outline = found.map Campaign.outline)
      (Lifecycle.begin id : Run σ α (Option (Campaign α))).run
      (Lifecycle.begin id : Run σ α (Option (Campaign α))).run := by
  unfold Lifecycle.begin
  refine Rehearses.shows.clock.abreast_run_bind fun now =>
    Alike.abreast_run_bind (Rehearses.shows.transition id _ ?_)
      fun claimed => ?_
  · exact fun _ _ => rfl
  split
  · exact get?_outline id
  · exact (Rehearses.shows.status? id).abreast_run_bind fun _ => abreast_throw

theorem claim_outline (id : Int) :
    Abreast (Rehearses before : World σ α → World σ α → Prop)
      (BothEnd fun claimed claimed' => SameOutline claimed.1 claimed'.1 ∧ claimed'.2 = claimed.2)
      (claim id : Run σ α (Campaign α × Predicate)).run
      (claim id : Run σ α (Campaign α × Predicate)).run := by
  unfold claim
  refine abreast_run_bind (runnable_outline id) fun campaign other same =>
    (compile_alike same).abreast_run_bind fun predicate =>
      abreast_run_bind (begin_outline id) fun found found' begun => abreast_run_pure ⟨?_, rfl⟩
  change (found'.getD other).outline = (found.getD campaign).outline
  rw [← Option.getD_map Campaign.outline, ← Option.getD_map Campaign.outline, begun, same]

/-- The size of an audience is the same for both passes. -/
theorem count_alike (audience : Audience) (size : Int) :
    Alike (Rehearses before : World σ α → World σ α → Prop)
      (audience.count size : Run σ α Nat).run (audience.count size : Run σ α Nat).run := by
  let more (count : Nat) (_ : TargetRecord) : Steady σ α (Visit Nat) := pure (.next (count + 1))
  have visits : Audience.VisitsAbreast (fun found live found' mock => found' = found ∧
      Rehearses before live mock) (fun _ => True) more more :=
    ⟨fun _ _ _ _ => trivial, fun _ _ _ _ _ ⟨same, rehearses⟩ _ =>
      .next ⟨congrArg (· + 1) same, rehearses⟩⟩
  have walks : Alike (Rehearses before : World σ α → World σ α → Prop)
      (audience.walk size none more 0) (audience.walk size none more 0) := by
    intro live mock rehearses
    obtain ⟨⟨found, worlds⟩, failure⟩ := visits.walk (fun _ _ _ _ both =>
      Rehearses.shows.tables _ both.2) 0 0 live mock ⟨rfl, rehearses⟩ trivial
    exact ⟨Prod.ext found failure, worlds⟩
  refine alike_run_bind (alike_lift walks) fun walked => ?_
  obtain ⟨count, _ | failure⟩ := walked
  · exact alike_run_pure
  · exact alike_throw

theorem prepare_alike {campaign other : Campaign α} (same : SameOutline campaign other)
    (predicate : Predicate) :
    Alike (Rehearses before : World σ α → World σ α → Prop)
      (prepare engine campaign predicate).run
      (prepare (engine.inTestMode testMode) other predicate).run := by
  rw [show prepare (engine.inTestMode testMode) other predicate = prepare engine campaign predicate
    from view_of_outline (f := fun campaign => prepare (engine.inTestMode testMode) campaign
      predicate) (fun _ => rfl) same]
  refine alike_run_bind (alike_run_bind Rehearses.shows.clock fun _ => alike_run_pure) fun audience =>
    alike_run_bind ?_ fun _ => alike_run_pure
  unfold targetCount
  split
  · exact alike_run_pure
  · exact alike_run_bind (count_alike audience _) fun _ => alike_run_pure

theorem excludedAndLimit_alike {campaign other : Campaign α} (same : SameOutline campaign other)
    (count : Cell) :
    Alike (Rehearses before : World σ α → World σ α → Prop)
      (excludedAndLimit campaign count : Run σ α (List Int × Option Int)).run
      (excludedAndLimit other count : Run σ α (List Int × Option Int)).run := by
  rw [show (excludedAndLimit other count : Run σ α _) = excludedAndLimit campaign count from
    view_of_outline (f := fun campaign => (excludedAndLimit campaign count : Run σ α _))
      (fun _ => rfl) same]
  have cooled : Alike (Rehearses before : World σ α → World σ α → Prop)
      (CooldownLedger.activeTargets campaign.id campaign.target campaign.cooldownDays none :
        Run σ α (List Int)).run (CooldownLedger.activeTargets campaign.id campaign.target
          campaign.cooldownDays none : Run σ α (List Int)).run := by
    refine alike_run_bind alike_pure? fun positive => ?_
    split
    · exact alike_run_pure
    · exact alike_run_bind Rehearses.shows.clock fun _ => alike_run_bind alike_pure? fun start =>
        Rehearses.shows.consult fun _ => rfl
  refine alike_run_bind (alike_run_bind cooled fun ids => ?_) fun _ =>
    alike_run_bind alike_pure? fun _ => alike_run_pure
  split
  · exact alike_run_pure
  · exact alike_run_bind (Rehearses.shows.query fun _ _ rehearses =>
      rehearses.messagedIn_eq _ _)
      fun _ => alike_run_pure

/-- The starts of a live and a simulated pass. -/
inductive Start.Rehearses : Start α → Start α → Prop
  | refused (failure : Failure) : Rehearses (.refused failure) (.refused failure)
  | unprepared {campaign other : Campaign α} (same : SameOutline campaign other)
      (isTest isTest' : Bool) (count : Cell) (failure : Failure) :
      Rehearses (.unprepared campaign isTest count failure) (.unprepared other isTest' count failure)
  | walks {setting : Setting α} {other : Campaign α} (same : SameOutline setting.campaign other)
      (isTest : Bool) : Rehearses (.walks setting) (.walks { setting with campaign := other, isTest })

/-- Both passes start in the same way. -/
theorem start_rehearsed (id : Int) :
    Abreast (Rehearses before : World σ α → World σ α → Prop) Start.Rehearses (start engine id)
      (start (engine.inTestMode testMode) id) := by
  unfold start
  refine abreast_bind (claim_outline id) ?_
  rintro _ _ (belong | failure)
  case error => exact abreast_pure (.refused failure)
  rename_i claimed claimed'
  obtain ⟨campaign, predicate⟩ := claimed
  obtain ⟨other, predicate'⟩ := claimed'
  obtain ⟨same, rfl⟩ := belong
  refine (prepare_alike engine testMode same _).abreast_bind fun prepared => ?_
  rcases prepared with failure | ⟨audience, count⟩
  · exact abreast_pure (.unprepared same _ _ _ failure)
  · refine (excludedAndLimit_alike same count).abreast_bind fun bounds => ?_
    rcases bounds with failure | ⟨excluded, limit⟩
    · exact abreast_pure (.unprepared same _ _ _ failure)
    · exact abreast_pure (.walks same _)

end Start

end Pass

end Herald
