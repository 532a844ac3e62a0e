import Herald.Proofs.Beginning

/-! # Changes of status

Every change of a campaign's status is a transition, and a transition has happened or has left every
campaign where it stood. `transition_changed` says so of all of them at once, so what an operation
does to a status is a matter of the statuses that its transition allows and leads to.
-/

namespace Herald

variable {σ α : Type}

/-- Where a campaign stands in a world, if there is such a campaign. -/
def World.status? (world : World σ α) (id : Int) : Option CampaignStatus :=
  (world.store.campaign? id).map Campaign.status

namespace Lifecycle

/-- A transition that has happened: the campaign stood where it was allowed and stands where the
transition leads. -/
structure Changed (id : Int) (allowed : CampaignStatus → Bool) (target : CampaignStatus)
    (world after : World σ α) : Prop where
  created : after.store.created = true
  fitted : Cell.fitted id = .ok id
  allows : ∃ status, world.status? id = some status ∧ allowed status = true
  status_eq : after.status? id = some target
  others : ∀ other, other ≠ id → after.status? other = world.status? other

/-- What follows a transition that has ended like this. -/
def Ending (id : Int) (allowed : CampaignStatus → Bool) (target : CampaignStatus)
    (world after : World σ α) : Except Failure Bool → Prop
  | .ok true => Changed id allowed target world after
  | .ok false => (∀ status, world.status? id = some status → allowed status = false) ∧
      ∀ other, after.status? other = world.status? other
  | .error _ => ∀ other, after.status? other = world.status? other

/-- Where campaigns stand after a conditional write. -/
theorem status?_updateCampaign (world : World σ α) (id other : Int)
    (allowed : CampaignStatus → Bool) {target : CampaignStatus}
    {change : Campaign α → Campaign α} (ids : ∀ campaign, (change campaign).id = campaign.id)
    (leads : ∀ campaign, (change campaign).status = target) :
    World.status? { world with
        store := world.store.updateCampaign id (fun campaign => allowed campaign.status) change }
      other = (world.status? other).map fun status =>
        if other == id && allowed status then target else status := by
  rw [World.status?, World.status?, campaign?_updateCampaign _ id other _ ids, Option.map_map,
    Option.map_map]
  cases found : world.store.campaign? other with
  | none => rfl
  | some campaign =>
    simp only [Option.map_some, Function.comp_apply, campaign?_id found]
    split
    · rw [leads]
    · rfl

/-- A transition has happened or has left every campaign where it stood. -/
theorem transition_changed (id : Int) (allowed : CampaignStatus → Bool) {target : CampaignStatus}
    {change : Campaign α → Campaign α} (ids : ∀ campaign, (change campaign).id = campaign.id)
    (leads : ∀ campaign, (change campaign).status = target) (world : World σ α) :
    Ends (transition id allowed change) world fun result after =>
      Ending id allowed target world after result := by
  rw [transition, ends_bind, ends_clock]
  dsimp only
  by_cases created : world.store.created = true
  · rw [ends_commit created]
    cases fits : Cell.fitted id with
    | error failure => exact fun other => rfl
    | ok fit =>
      cases fitted_eq fits
      let middle : World σ α := { world with
        store := world.store.updateCampaign id (fun campaign => allowed campaign.status)
          fun campaign => { change campaign with updatedAt := world.now } }
      have stands : ∀ other, middle.status? other = (world.status? other).map fun status =>
          if other == id && allowed status then target else status :=
        fun other => status?_updateCampaign world id other allowed ids leads
      have happens : (world.store.campaign? id).any (fun campaign => allowed campaign.status) =
          (world.status? id).any allowed := (Option.any_map ..).symm
      simp only [bind, Except.bind, pure, Except.pure, happens]
      change Ending id allowed target world middle (.ok ((world.status? id).any allowed))
      cases here : world.status? id with
      | none =>
        refine ⟨fun status there => ?_, fun other => ?_⟩
        · rw [here] at there
          cases there
        rw [stands]
        by_cases same : other = id
        · cases same
          rw [here, Option.map_none]
        · simp [same]
      | some status =>
        cases allows : allowed status with
        | true =>
          rw [Option.any_some, allows]
          refine ⟨created, fits, ⟨status, here, allows⟩, ?_, fun other differs => ?_⟩
          · rw [stands, here]
            simp [allows]
          · rw [stands]
            simp [differs]
        | false =>
          rw [Option.any_some, allows]
          refine ⟨fun other there => ?_, fun other => ?_⟩
          · rw [here] at there
            cases there
            exact allows
          rw [stands]
          by_cases same : other = id
          · cases same
            simp [here, allows]
          · simp [same]
  · simp only [Run.commit, ends_bind, ends_get, created, Bool.false_eq_true, ↓reduceIte]
    exact fun other => rfl

/-- What a transition leads to, from what it leads to whether it has happened or not. Nothing
outside takes notice of it. -/
theorem ends_transition {id : Int} {allowed : CampaignStatus → Bool} (target : CampaignStatus)
    {change : Campaign α → Campaign α} {world : World σ α}
    {after : Except Failure Bool → World σ α → Prop}
    (ids : ∀ campaign, (change campaign).id = campaign.id)
    (leads : ∀ campaign, (change campaign).status = target)
    (holds : ∀ result middle, Ending id allowed target world middle result →
      middle.outside = world.outside → after result middle) :
    Ends (transition id allowed change) world after := by
  refine ((transition_changed id allowed ids leads world).and
    (transition_ends id allowed change world)).mono ?_
  rintro (failure | changed) middle ⟨ending, wrote⟩
  · refine holds _ _ ending ?_
    rw [show middle = world from wrote]
  · refine holds _ _ ending ?_
    rw [wrote.2]

/-- On created tables a transition of a campaign whose id a table takes does not fail. -/
theorem transition_succeeds {id : Int} (allowed : CampaignStatus → Bool)
    (change : Campaign α → Campaign α) {world : World σ α} (created : world.store.created = true)
    (fits : Cell.fits id = true) :
    Ends (transition id allowed change) world fun result _ => ∃ changed, result = .ok changed := by
  have fitted : Cell.fitted id = .ok id := if_pos fits
  rw [transition, ends_bind, ends_clock]
  dsimp only
  rw [ends_commit created, fitted]
  exact ⟨_, rfl⟩

/-- Reading where a campaign stands tells where it stands, and changes nothing. -/
theorem status?_found (id : Int) (world : World σ α) :
    Ends (status? id) world fun result after =>
      after = world ∧ ∀ status, result = .ok status → status = world.status? id := by
  by_cases created : world.store.created = true
  · rw [status?, ends_query created]
    exact ⟨rfl, fun status same => (Except.ok.inj same).symm⟩
  · simp only [status?, Run.query, ends_bind, ends_get, created, Bool.false_eq_true, ↓reduceIte,
      ends_throw]
    exact ⟨trivial, fun status same => by cases same⟩

/-- A campaign that has been changed is handed on. -/
theorem require_ends {id : Int} {changed : Bool} {action : String} {world : World σ α}
    (stands : changed = true → world.store.created = true ∧ Cell.fitted id = .ok id ∧
      ∃ status, world.status? id = some status) :
    Ends (require id changed action) world fun result after =>
      after = world ∧ (changed = true ↔ ∃ campaign, result = .ok campaign) := by
  rw [require, ends_bind]
  cases changed with
  | false =>
    refine leads_of_still (status?_moves id) fun result => ?_
    cases result with
    | error failure => exact ⟨rfl, by simp⟩
    | ok status =>
      dsimp only
      rw [if_neg Bool.false_ne_true, ends_throw]
      exact ⟨rfl, by simp⟩
  | true =>
    obtain ⟨created, fitted, status, stands⟩ := stands rfl
    obtain ⟨campaign, found, _⟩ := Option.map_eq_some_iff.mp stands
    rw [status?, ends_query created]
    dsimp only
    rw [if_pos rfl, ends_bind, Pass.get?_ends created, fitted]
    simp only [Except.map, found]
    rw [ends_pure]
    exact ⟨rfl, by simp⟩

theorem Changed.stands {id : Int} {allowed : CampaignStatus → Bool} {target : CampaignStatus}
    {world after : World σ α} (changed : Changed id allowed target world after) :
    after.store.created = true ∧ Cell.fitted id = .ok id ∧
      ∃ status, after.status? id = some status :=
  ⟨changed.created, changed.fitted, target, changed.status_eq⟩

end Lifecycle

end Herald
