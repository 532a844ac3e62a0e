import Herald.Proofs.Guard

/-! # Campaigns that are cancelled while they send

Nobody but its own pass and an operator who cancels does anything to a campaign that is sending, and
nobody at all does anything to one that has been cancelled. `Sustains` says so of everything that is
told of a campaign's passes, not of the status alone: when the campaign runs next and when it ran
last, how often it has run, and when it was over.
-/

namespace Herald

variable {σ τ α : Type}

/-- What passes and cancellations write about a campaign. -/
structure Life where
  status : CampaignStatus
  nextRunAt : Option Moment
  completedAt : Option Moment
  lastRunAt : Option Moment
  runCount : Cell
  deriving DecidableEq

namespace Life

/-- A life that is cancelled at a time: the runs of the campaign remain as they are. -/
def cancelled (now : Moment) (life : Life) : Life :=
  { life with status := .cancelled, nextRunAt := none, completedAt := some now }

/-- A life in the hands of a pass: the campaign is sending, or has been cancelled. -/
def IsUnderway (life : Life) : Prop := life.status = .sending ∨ life.status = .cancelled

/-- A life that goes on without its pass: it remains as it is, or is cancelled while the campaign is
sending. -/
inductive Proceeds (life : Life) : Life → Prop
  | rests : Proceeds life life
  | cancelled (sending : life.status = .sending) (now : Moment) : Proceeds life (life.cancelled now)

variable {life middle later : Life}

theorem Proceeds.trans (first : life.Proceeds middle) (second : middle.Proceeds later) :
    life.Proceeds later := by
  cases first with
  | rests => exact second
  | cancelled sending now =>
    cases second with
    | rests => exact .cancelled sending now
    | cancelled again => cases again

theorem Proceeds.isUnderway (proceeds : life.Proceeds later) (underway : life.IsUnderway) :
    later.IsUnderway := by
  cases proceeds with
  | rests => exact underway
  | cancelled => exact .inr rfl

/-- What has been cancelled remains as it is. -/
theorem Proceeds.eq_of_cancelled (proceeds : life.Proceeds later)
    (cancelled : life.status = .cancelled) : later = life := by
  cases proceeds with
  | rests => rfl
  | cancelled sending => cases sending.symm.trans cancelled

/-- What is still sending has remained as it is. -/
theorem Proceeds.eq_of_sending (proceeds : life.Proceeds later) (sending : later.status = .sending) :
    later = life := by
  cases proceeds with
  | rests => rfl
  | cancelled => cases sending

/-- The runs of a campaign do not depend on how its life goes on. -/
theorem Proceeds.runs_eq (proceeds : life.Proceeds later) :
    later.lastRunAt = life.lastRunAt ∧ later.runCount = life.runCount := by
  cases proceeds <;> exact ⟨rfl, rfl⟩

/-- A life that is underway goes on without its pass. -/
def Sustained (before after : Option Life) : Prop :=
  ∀ life, before = some life → life.IsUnderway → ∃ later, after = some later ∧ life.Proceeds later

theorem Sustained.refl (life : Option Life) : Sustained life life :=
  fun _ here _ => ⟨_, here, .rests⟩

theorem Sustained.trans {first second third : Option Life} (left : Sustained first second)
    (right : Sustained second third) : Sustained first third := by
  intro life here underway
  obtain ⟨middle, there, proceeds⟩ := left life here underway
  obtain ⟨later, beyond, proceeds'⟩ := right middle there (proceeds.isUnderway underway)
  exact ⟨later, beyond, proceeds.trans proceeds'⟩

end Life

def Campaign.life (campaign : Campaign α) : Life :=
  ⟨campaign.status, campaign.nextRunAt, campaign.completedAt, campaign.lastRunAt, campaign.runCount⟩

/-- What passes and cancellations have written about the campaign of an id. -/
def Store.life? (store : Store α) (id : Int) : Option Life := (store.campaign? id).map Campaign.life

/-- A campaign that is underway goes on without its pass. -/
def Sustains (id : Int) (before after : World σ α) : Prop :=
  Life.Sustained (before.store.life? id) (after.store.life? id)

instance (id : Int) : IsPreorder (World σ α) (Sustains id) where
  refl _ := .refl _
  trans _ _ _ := Life.Sustained.trans

theorem Sustains.of_eq {id : Int} {before after : World σ α}
    (same : after.store.life? id = before.store.life? id) : Sustains id before after := by
  unfold Sustains
  rw [same]
  exact .refl _

theorem World.status?_eq_of_life? {world : World σ α} {id : Int} {life : Life}
    (here : world.store.life? id = some life) : world.status? id = some life.status := by
  obtain ⟨campaign, found, rfl⟩ := Option.map_eq_some_iff.mp here
  exact congrArg (Option.map Campaign.status) found

/-- What a pass adds up is nothing to the life of a campaign. -/
theorem Store.life?_of_sums [Amount α] {store : Store α} {target : Int} {tally : Tally}
    {count : Option Cell} {now : Moment} {campaigns : List (Campaign α)}
    (sums : List.Forall₂ (Campaign.Sums target tally count now) store.campaigns campaigns)
    (id : Int) : Store.life? { store with campaigns } id = store.life? id := by
  have related := campaign?_sums sums id
  unfold Store.life?
  generalize store.campaign? id = before at related
  generalize ({ store with campaigns }.campaign? id) = after at related ⊢
  cases related with
  | none => rfl
  | some sums =>
    unfold Campaign.Sums at sums
    split at sums
    · obtain ⟨sms, email, _, _, rfl⟩ := sums
      rfl
    · rw [sums]

/-! ## What happens around a pass -/

namespace Lifecycle

/-- A transition leaves a life as it is, or the life is one that it changes. -/
theorem transition_life (id : Int) (allowed : CampaignStatus → Bool)
    {change : Campaign α → Campaign α} (ids : ∀ campaign, (change campaign).id = campaign.id)
    {world : World σ α} {other : Int} {old : Campaign α}
    (found : world.store.campaign? other = some old) :
    Ends (transition id allowed change) world fun _ after =>
      after.store.life? other = some old.life ∨
        (other = id ∧ allowed old.status = true ∧
          after.store.life? other = some (change old).life) := by
  refine Leads.mono (transition_found id allowed ids found) ?_
  rintro (failure | changed) after wrote
  · cases wrote
    exact .inl (congrArg (Option.map Campaign.life) found)
  · have here : after.store.life? other = _ := congrArg (Option.map Campaign.life) wrote.2
    by_cases changes : (old.id == id && allowed old.status) = true
    · rw [if_pos changes] at here
      rw [Bool.and_eq_true, beq_iff_eq, campaign?_id found] at changes
      exact .inr ⟨changes.1, changes.2, here⟩
    · rw [if_neg changes] at here
      exact .inl here

/-- A transition that sustains what it changes sustains every life. -/
theorem transition_sustains {id other : Int} {allowed : CampaignStatus → Bool}
    {change : Campaign α → Campaign α} (ids : ∀ campaign, (change campaign).id = campaign.id)
    (sustains : ∀ campaign : Campaign α, other = id → allowed campaign.status = true →
      campaign.life.IsUnderway → campaign.life.Proceeds (change campaign).life) :
    Moves (Sustains other) (transition id allowed change : Run σ α Bool).run := by
  intro world life here underway
  obtain ⟨old, found, rfl⟩ := Option.map_eq_some_iff.mp here
  obtain same | ⟨own, allows, changed⟩ : _ ∨ _ := transition_life id allowed ids found
  · exact ⟨_, same, .rests⟩
  · exact ⟨_, changed, sustains old own allows underway⟩

/-- A change that a campaign underway does not allow is nothing to it. -/
theorem waiting_sustains (id : Int) :
    AllowsWaiting (Sustains id : World σ α → World σ α → Prop) := by
  intro target allowed change keeps sending cancelled
  have ids : ∀ campaign, (change campaign).id = campaign.id := fun campaign =>
    (congrArg Campaign.id (keeps campaign) : (change campaign).terms.id = campaign.terms.id)
  refine transition_sustains ids fun campaign _ allows underway => ?_
  rcases underway with here | here <;> (change campaign.status = _ at here; rw [here] at allows)
  · cases sending.symm.trans allows
  · cases cancelled.symm.trans allows

/-- The end of another campaign's pass is nothing to a life. -/
theorem other_sustains {id target : Int} (other : id ≠ target) (allowed : CampaignStatus → Bool)
    {change : Campaign α → Campaign α} (ids : ∀ campaign, (change campaign).id = campaign.id) :
    Moves (Sustains id) (transition target allowed change : Run σ α Bool).run :=
  transition_sustains ids fun _ own => absurd own other

theorem cancel_sustains (id target : Int) :
    Moves (Sustains id) (cancel target : Run σ α (Campaign α)).run := by
  refine moves_run_bind moves_clock fun now => moves_run_bind ?_ fun changed =>
    require_moves target changed _
  refine transition_sustains (fun _ => rfl) fun campaign _ allows underway => ?_
  rcases underway with sending | cancelled
  · exact .cancelled sending now
  · change campaign.status = _ at cancelled
    rw [cancelled] at allows
    cases allows

/-- A cancellation that succeeds cancels the life. -/
theorem cancel_life {id : Int} {world : World σ α} {life : Life}
    (here : world.store.life? id = some life) (sending : life.status = .sending) :
    Ends (cancel id) world fun result after => ∀ campaign, result = .ok campaign →
      after.store.life? id = some (life.cancelled world.now) := by
  obtain ⟨old, found, rfl⟩ := Option.map_eq_some_iff.mp here
  have stands : old.status = .sending := sending
  rw [cancel, ends_bind, ends_clock]
  dsimp only
  rw [ends_bind]
  refine Leads.mono (transition_found id _ ?_ found) ?_
  · exact fun _ => rfl
  rintro (failure | changed) middle wrote
  · exact fun _ same => by cases same
  · dsimp only
    have cancels : middle.store.life? id = some (old.life.cancelled world.now) := by
      have there : middle.store.life? id = _ := congrArg (Option.map Campaign.life) wrote.2
      have changes : (old.id == id && !old.status.isTerminal) = true := by
        rw [campaign?_id found, stands, BEq.rfl]
        rfl
      rw [there, if_pos changes]
      rfl
    exact ((require_moves (R := Agree fun world => world.store.life? id) id changed _).leads
      middle).mono fun _ _ same _ _ => same.trans cancels

end Lifecycle

section Attended

variable [Amount α]

omit [Amount α] in
/-- Another campaign is not found in place of one that is there. -/
theorem campaign?_append {store : Store α} {id : Int} {old : Campaign α}
    (found : store.campaign? id = some old) (more : List (Campaign α)) :
    ({ store with campaigns := store.campaigns ++ more }.campaign? id) = some old := by
  unfold Store.campaign? at found ⊢
  rw [List.find?_append, found, Option.some_or]

theorem Lifecycle.create_sustains (tenant : String) (draft : Draft) (id : Int) :
    Moves (Sustains id) (create tenant draft : Run σ α (Campaign α)).run := by
  refine create_moves fun world now _ life here underway => ⟨life, ?_, .rests⟩
  obtain ⟨old, found, rfl⟩ := Option.map_eq_some_iff.mp here
  rw [Store.life?, campaign?_append found, Option.map_some]

theorem Attendance.sustains {id : Int} {before after : World σ α}
    (step : Attendance id before after) : Sustains id before after := by
  cases step with
  | elapse same => exact .of_eq (by rw [same])
  | act operation spares =>
    suffices moves : Moves (Sustains id) (operation.run : Run σ α Bool).run from moves before
    have ends : ∀ {target : Int} (mark : Mark), mark.endsPass = true →
        operation.mark? id = (if target = id then some mark else none) → id ≠ target := by
      rintro target mark ending marks rfl
      exact Bool.false_ne_true ((spares mark (by rw [marks, if_pos rfl]; rfl)).symm.trans ending)
    have waits := Lifecycle.waiting_sustains (σ := σ) (α := α) id
    cases operation with
    | create tenant draft =>
      exact moves_run_bind (Lifecycle.create_sustains tenant draft id) fun _ => moves_run_pure
    | operate action =>
      exact moves_run_bind (action.moves_of waits (Lifecycle.cancel_sustains id)) fun _ =>
        moves_run_pure
    | begin target =>
      refine moves_run_bind (moves_run_bind moves_clock fun now => moves_run_bind
        (waits target _ _ (fun _ => rfl) rfl rfl) fun claimed => ?_) fun _ => moves_run_pure
      split
      · exact Lifecycle.get?_moves target none
      · exact moves_run_bind (Lifecycle.status?_moves target) fun _ => moves_throw
    | finish target exit pauseReason completedAt nextRunAt =>
      exact moves_run_bind moves_clock fun now =>
        Lifecycle.other_sustains (ends (.left exit) rfl rfl) _ fun _ => rfl
    | markFailed target reason =>
      exact moves_run_bind moves_clock fun now =>
        Lifecycle.other_sustains (ends .failed rfl rfl) _ fun _ => rfl
    | expire target now =>
      rw [Operation.run, Lifecycle.expire]
      exact waits target _ _ (fun _ => rfl) rfl rfl

/-- Whatever happens around its pass, a campaign that is underway goes on. -/
theorem Attended.sustains {id : Int} {before after : World σ α}
    (attended : Attended id before after) : Sustains id before after := by
  induction attended with
  | refl => exact refl before
  | tail _ step ih => exact IsTrans.trans _ _ _ ih step.sustains

/-- The campaign is cancelled during the call at a time: an operator's cancellation succeeds on it
while it is sending. -/
def Incident.CancelsAt (id : Int) (now : Moment) (incident : Incident σ α) : Prop :=
  ∃ (middle cancelled : World σ α) (campaign : Campaign α), Attended id incident.before middle ∧
    middle.status? id = some .sending ∧ middle.now = now ∧
    (Lifecycle.cancel id).run.run middle = (.ok campaign, cancelled) ∧
    Attended id cancelled incident.after

/-- The life of a campaign that is cancelled during a call: cancelled at that time, with its runs as
they were. -/
theorem Incident.CancelsAt.life {id : Int} {now : Moment} {incident : Incident σ α} {life : Life}
    (cancels : incident.CancelsAt id now) (here : incident.before.store.life? id = some life)
    (underway : life.IsUnderway) :
    life.status = .sending ∧ incident.after.store.life? id = some (life.cancelled now) := by
  obtain ⟨middle, cancelled, campaign, first, sending, rfl, ends, second⟩ := cancels
  obtain ⟨between, there, proceeds⟩ := first.sustains life here underway
  have stands : between.status = .sending :=
    Option.some.inj ((World.status?_eq_of_life? there).symm.trans sending)
  obtain rfl := proceeds.eq_of_sending stands
  have cancelled_life : cancelled.store.life? id = some (between.cancelled middle.now) := by
    have lives := Lifecycle.cancel_life there stands
    unfold Ends Leads at lives
    rw [ends] at lives
    exact lives campaign rfl
  obtain ⟨later, beyond, proceeds⟩ := second.sustains _ cancelled_life (.inr rfl)
  exact ⟨stands, beyond.trans (congrArg some (proceeds.eq_of_cancelled rfl))⟩

end Attended

end Herald
