import Herald.Proofs.Interruption
import Herald.Proofs.Unfolding

/-! # Campaigns that are over

A campaign that has been completed, cancelled or failed remains as it is: nothing is attempted on it
with success, and no pass of it begins. Only what a pass that was already running has sent by then
is still added up. A campaign is over exactly if it has a time at which it was, and when it started
is never changed.
-/

namespace Herald

variable {σ α : Type} [Amount α] {schedulable : Campaign α → Prop} {running : Int → Prop}

/-! ## What a pass leaves its campaign with -/

/-- What goes with the status that a pass leaves its campaign in. -/
structure Pass.Leaving.Fits (campaign : Campaign α) (leaving : Pass.Leaving) : Prop where
  completedAt : leaving.completedAt.isSome = leaving.status.isTerminal
  nextRunAt : leaving.nextRunAt.isSome = true → leaving.status = .active
  pauseReason : leaving.pauseReason.isSome = true → leaving.status = .paused
  automated : leaving.status = .active → campaign.isAutomated = true

omit [Amount α] in
theorem Pass.leaving_fits {settings : Settings} {campaign : Campaign α} {outOfBalance : Bool}
    {now : Moment} {leaving : Leaving}
    (leaves : Pass.leaving settings campaign outOfBalance now = .ok leaving) :
    leaving.Fits campaign := by
  unfold Pass.leaving at leaves
  split at leaves
  · cases leaves
    exact ⟨rfl, by rintro ⟨⟩, fun _ => rfl, by rintro ⟨⟩⟩
  · split at leaves
    · cases leaves
      exact ⟨rfl, by rintro ⟨⟩, by rintro ⟨⟩, by rintro ⟨⟩⟩
    · rename_i goesOn
      rw [Bool.or_eq_true, not_or, Bool.not_eq_true', Bool.not_eq_false] at goesOn
      cases next : nextRun settings campaign now with
      | error failure =>
        rw [next] at leaves
        cases leaves
      | ok time =>
        rw [next] at leaves
        cases leaves
        exact ⟨rfl, fun _ => rfl, by rintro ⟨⟩, fun _ => goesOn.1⟩

theorem Operation.Suits.fits {id : Int} {exit : Exit} {reason : Option String}
    {completedAt nextRunAt : Option Moment} {old : Campaign α}
    (suits : (Operation.finish id exit reason completedAt nextRunAt).Suits schedulable old) :
    Pass.Leaving.Fits old ⟨exit.status, reason, completedAt, nextRunAt⟩ := by
  obtain ⟨settings, outOfBalance, now, campaign, planned, leaves⟩ := suits
  have fits := Pass.leaving_fits leaves
  have same : campaign.plan.recurrence = old.plan.recurrence := congrArg Campaign.recurrence planned
  refine ⟨fits.completedAt, fits.nextRunAt, fits.pauseReason, fun active => ?_⟩
  have automated : (campaign.plan.recurrence == .automated) = true := fits.automated active
  rw [same] at automated
  exact automated

/-! ## One campaign -/

/-- A campaign without what a pass adds up. -/
def Campaign.settled (campaign : Campaign α) : Campaign α :=
  { campaign with
    targetCount := .int 0, sms := .none, email := .none, updatedAt := campaign.createdAt }

omit [Amount α] in
/-- No operation changes a campaign that is over. -/
theorem Operation.Changes.ongoing {operation : Operation} {old new : Campaign α}
    (changes : operation.Changes old new) : old.status.isTerminal = false := by
  cases changes with
  | scheduled draft => rw [draft]; rfl
  | activated automated waits => rcases waits with waits | waits <;> (rw [waits]; rfl)
  | paused waits => rcases waits with waits | waits <;> (rw [waits]; rfl)
  | reactivated automated waits => rcases waits with waits | waits <;> (rw [waits]; rfl)
  | resumed once waits => rw [waits]; rfl
  | cancelled ongoing => exact ongoing
  | begun runnable =>
    generalize old.status = status at runnable ⊢
    cases status <;> first | rfl | cases runnable
  | left sending => rw [sending]; rfl
  | failed sending => rw [sending]; rfl
  | expired active => rw [active]; rfl

namespace Campaign

variable {old new : Campaign α}

/-- What remains of a campaign, whatever becomes of it. -/
structure Endures (old new : Campaign α) : Prop where
  started : ∀ time, old.startedAt = some time → new.startedAt = some time
  ended : old.status.isTerminal = true → new.settled = old.settled

theorem settled_status (same : new.settled = old.settled) : new.status = old.status :=
  (congrArg Campaign.status same : new.settled.status = old.settled.status)

theorem Step.endures (step : Step schedulable old new) : old.Endures new := by
  cases step with
  | summed => exact ⟨fun _ started => started, fun _ => rfl⟩
  | operated operated =>
    obtain ⟨operation, _, changes⟩ := operated
    refine ⟨fun time started => ?_, fun terminal => ?_⟩
    · cases changes with
      | begun => exact (congrArg (Option.or · _) started : _)
      | _ => exact started
    · exact absurd (changes.ongoing.symm.trans terminal) Bool.false_ne_true

theorem Becomes.endures (becomes : Becomes schedulable old new) : old.Endures new := by
  induction becomes with
  | refl => exact ⟨fun _ started => started, fun _ => rfl⟩
  | tail _ step ih =>
    refine ⟨fun time started => step.endures.started time (ih.started time started),
      fun terminal => ?_⟩
    have same := ih.ended terminal
    exact (step.endures.ended (settled_status same ▸ terminal)).trans same

/-- A campaign has a time at which it was over exactly if it is. -/
def IsDated (campaign : Campaign α) : Prop :=
  campaign.completedAt.isSome = campaign.status.isTerminal

theorem Step.isDated (step : Step schedulable old new) (dated : old.IsDated) : new.IsDated := by
  have none : old.status.isTerminal = false → old.completedAt = none := fun ongoing =>
    Option.isSome_eq_false_iff.mp (dated.trans ongoing) |> Option.isNone_iff_eq_none.mp
  cases step with
  | summed => exact dated
  | operated operated =>
    obtain ⟨operation, suits, changes⟩ := operated
    have undated := none changes.ongoing
    cases changes with
    | cancelled => rfl
    | failed => rfl
    | expired => rfl
    | @left _ exit reason completedAt =>
      refine Eq.trans ?_ suits.fits.completedAt
      exact congrArg Option.isSome (by rw [Pass.left, undated, Option.or_none])
    | _ => exact congrArg Option.isSome undated

end Campaign

/-! ## Tables -/

/-- Every campaign becomes what it is in a later store, and the one of an id remains as it is if it
is over. -/
structure Store.Rests (schedulable : Campaign α → Prop) (id : Int) (before after : Store α) : Prop
    extends before.Proceeds schedulable after where
  rests : ∀ old, before.campaign? id = some old → old.status.isTerminal = true →
    after.campaign? id = some old

namespace Store

theorem rests_follows (id : Int) :
    Follows schedulable (Rests schedulable id : Store α → Store α → Prop) where
  apart campaigns created := {
    toProceeds := proceeds_follows.apart campaigns created
    rests := fun old found _ => by rwa [campaign?, campaigns] }
  trans left right := {
    toProceeds := proceeds_follows.trans left.toProceeds right.toProceeds
    rests := fun old found ended => right.rests old (left.rests old found ended) ended }
  plans rests found := proceeds_follows.plans rests.toProceeds found
  makes store tenant now draft plain := {
    toProceeds := proceeds_follows.makes store tenant now draft plain
    rests := fun old found _ => campaign?_append found _ }
  changes store other condition change ids operates := {
    toProceeds := proceeds_follows.changes store other condition change ids operates
    rests := fun old found ended => by
      rw [campaign?_updateCampaign store other id condition ids, found, Option.map_some]
      refine congrArg some (if_neg fun holds => ?_)
      rw [Bool.and_eq_true, beq_iff_eq, campaign?_id found] at holds
      obtain ⟨operation, _, changes⟩ := operates old (holds.1 ▸ found) holds.2
      exact Bool.false_ne_true (changes.ongoing.symm.trans ended) }

/-- What is added up for one campaign is nothing to another one. -/
theorem rests_adds {id other : Int} (apart : other ≠ id) :
    Adds (Rests schedulable id : Store α → Store α → Prop) other := by
  intro store tally count now campaigns sums
  refine ⟨proceeds_adds other store tally count now campaigns sums, fun old found _ => ?_⟩
  obtain ⟨new, there, sums⟩ := campaign?_of_sums sums found
  rw [Campaign.Sums, if_neg (campaign?_id found ▸ apart.symm)] at sums
  rw [there, sums]

end Store

namespace Pass

/-- A pass of a campaign that does not stand where a pass may begin does nothing. -/
theorem execute_refused {engine : Engine σ α} {id : Int} {world : World σ α} {old : Campaign α}
    (found : world.store.campaign? id = some old) (waits : old.status.isRunnable = false) :
    Ends (execute engine id) world fun _ after => after = world := by
  have unclaimed : ∀ {old campaign : Campaign α} {middle : World σ α},
      ¬ Claims id world old campaign middle := fun claims => by
    cases found.symm.trans claims.found
    exact Bool.false_ne_true (waits.symm.trans claims.runnable)
  refine execute_ends (fun _ => rfl) (fun _ _ _ _ _ _ claims => absurd claims unclaimed) ?_
  intro setting middle walks
  obtain ⟨_, claims, _⟩ := walks.claims
  exact absurd claims unclaimed

theorem incidents_refused {engine : Engine σ α} {id : Int} {world : World σ α} {old : Campaign α}
    (found : world.store.campaign? id = some old) (waits : old.status.isRunnable = false) :
    incidents engine id world = [] := by
  have same : Ends (execute (engine.recording Incident.mk) id) (world.beside []) fun _ after =>
      after = world.beside [] := execute_refused found waits
  exact congrArg (fun after : Watched σ α => after.outside.2) same

/-- A pass leaves a campaign that is over as it is, unless that is its own and over only since the
pass has begun. -/
theorem execute_rests {engine : Engine σ α} {id : Int} (other : Int)
    (exchange : ∀ request, Moves (Across (Store.Rests schedulable id)) (engine.exchange request).run)
    (beforeFinish : Moves (Across (Store.Rests schedulable id)) engine.beforeFinish.run)
    (world : World σ α) :
    Ends (execute engine other) world fun _ after =>
      Store.Rests schedulable id world.store after.store ∧
        ∀ call ∈ incidents engine other world,
          Store.Rests schedulable id world.store call.before.store := by
  by_cases own : other = id
  · subst own
    have spans := execute_spans Store.proceeds_follows
      (fun request world => (exchange request world).toProceeds)
      (fun world => (beforeFinish world).toProceeds) (Store.proceeds_adds other) world
    by_cases ended : ∃ old, world.store.campaign? other = some old ∧ old.status.isTerminal = true
    · obtain ⟨old, found, terminal⟩ := ended
      have waits : old.status.isRunnable = false := by
        generalize old.status = status at terminal ⊢
        cases status <;> first | rfl | cases terminal
      refine (execute_refused found waits).mono fun _ after same => ⟨?_, ?_⟩
      · rw [same]
        exact (Store.rests_follows other).refl _
      · rw [incidents_refused found waits]
        exact List.forall_mem_nil _
    · exact spans.mono fun _ after spans =>
        ⟨⟨spans.ends, fun old found terminal => absurd ⟨old, found, terminal⟩ ended⟩,
          fun call member => ⟨spans.ahead call member,
            fun old found terminal => absurd ⟨old, found, terminal⟩ ended⟩⟩
  · exact (execute_spans (Store.rests_follows id) exchange beforeFinish (Store.rests_adds own)
      world).mono fun _ _ spans => ⟨spans.ends, spans.ahead⟩

end Pass

/-- A campaign that is over remains as it is, unless a pass of it may still be running. -/
theorem Unfolds.rests {before after : World σ α} (unfolds : Unfolds schedulable running before after)
    {id : Int} (idle : ¬ running id) : before.store.Rests schedulable id after.store :=
  unfolds.related (Store.rests_follows id)
    (fun _ runs => Store.rests_adds fun same => idle (same ▸ runs))
    fun _ other exchange beforeFinish world =>
      Pass.execute_rests other exchange beforeFinish world

/-- The life of a campaign is safe. Whatever happens, a campaign keeps the time at which it started,
and once it is over nothing of it changes but what a pass that is still running adds up; that holds
from every call of a pass to the end of that pass, too. What has been attempted without success has
changed nothing, and a campaign is over exactly if it has a time at which it was. -/
theorem lifecycle_safe (schedulable : Campaign α → Prop) (running : Int → Prop) :
    (∀ {before after : World σ α}, Unfolds schedulable running before after →
      ∀ id old, before.store.campaign? id = some old →
        ∃ new, after.store.campaign? id = some new ∧ old.Endures new ∧
          (old.status.isTerminal = true → ¬ running id → new = old)) ∧
    (∀ engine : Engine σ α, engine.Unfolds schedulable running → ∀ id world,
      Ends (Pass.execute engine id) world fun _ after =>
        ∀ call ∈ Pass.incidents engine id world,
          ∀ other old, call.after.store.campaign? other = some old →
            ∃ new, after.store.campaign? other = some new ∧ old.Endures new ∧
              (old.status.isTerminal = true → other ≠ id → ¬ running other → new = old)) ∧
    ∀ world : World σ α, Reached schedulable world →
      (∀ operation : Operation, Ends operation.run world fun result after =>
        result ≠ .ok true → after = world) ∧
      ∀ id campaign, world.store.campaign? id = some campaign → campaign.IsDated := by
  refine ⟨fun unfolds id old found => ?_, fun engine around id world => ?_,
    fun world reached => ⟨fun operation => ?_, fun id campaign found => ?_⟩⟩
  · obtain ⟨new, there, becomes⟩ := unfolds.proceeds.keeps found
    refine ⟨new, there, becomes.endures, fun ended idle => ?_⟩
    exact Option.some.inj (there.symm.trans ((unfolds.rests idle).rests old found ended))
  · have rest : Ends (Pass.execute engine id) world fun _ after =>
        ∀ call ∈ Pass.incidents engine id world, ∀ other, other ≠ id → ¬ running other →
          Store.Rests schedulable other call.after.store after.store :=
      fun call member _ apart idle => (Pass.execute_spans (Store.rests_follows _)
        (fun request world => (around.exchange request world).rests idle)
        (fun world => (around.beforeFinish world).rests idle) (Store.rests_adds apart.symm)
        world).behind call member
    refine ((around.spans id world).and rest).mono ?_
    rintro _ after ⟨spans, rest⟩ call member other old found
    obtain ⟨new, there, becomes⟩ := (spans.behind call member).keeps found
    refine ⟨new, there, becomes.endures, fun ended apart idle => ?_⟩
    exact Option.some.inj
      (there.symm.trans ((rest call member other apart idle).rests old found ended))
  · exact (operation.wrote world).mono fun _ _ wrote => wrote.eq_of_fails reached.ascending
  · exact reached.holds found (fun _ _ _ _ => rfl) Campaign.Step.isDated

namespace Sample

theorem cancelling_unfolds (running : Int → Prop) :
    cancelling.Unfolds (fun _ => True) running where
  exchange request world := ((Unfolds.rest world).act (.cancel 1)
    (OperatorAction.isProper _ world)).apart (by cases request <;> rfl) (by cases request <;> rfl)
  beforeFinish world := .rest world

theorem draft_isPlain : draft.IsPlain := ⟨.inl rfl, by rintro _ ⟨⟩, by rintro _ ⟨⟩⟩

omit [Amount α] in
/-- The small history makes no campaign of a draft that cannot be submitted. -/
theorem prepared_plain (more : List (Event Unit α))
    (none : ∀ tenant draft, .create tenant draft ∉ more) :
    ∀ tenant draft, .create tenant draft ∈ prepared ++ more → draft.IsPlain := by
  intro tenant draft member
  rcases List.mem_append.mp member with member | member
  · simp only [prepared, List.mem_cons, Event.create.injEq, reduceCtorEq, List.not_mem_nil,
      or_false] at member
    rw [member.2]
    exact draft_isPlain
  · exact absurd member (none tenant draft)

end Sample

/-- A cancelled campaign is neither run nor resumed; one that is cancelled while it sends gets its
tally; and an attempt on a campaign that does not exist changes nothing. -/
theorem sample_lifecycle_safe :
    let world : World Unit Binary64 := Sample.funded 5
    let ended := world.after [.operate (.cancel 1)]
    let later := ended.after [.execute Sample.engine 1, .operate (.resume .utc 1)]
    (∃ old, ended.store.campaign? 1 = some old ∧ old.status.isTerminal = true ∧
      later.store.campaign? 1 = some old) ∧
    (Ends (Pass.execute Sample.cancelling 1) world fun _ after =>
      ∃ call ∈ Pass.incidents Sample.cancelling 1 world, ∃ old new,
        call.after.store.campaign? 1 = some old ∧ old.status.isTerminal = true ∧
          after.store.campaign? 1 = some new ∧ new.settled = old.settled) ∧
    (Ends (Operation.begin 2).run world fun result after => result ≠ .ok true ∧ after = world) ∧
    ∃ campaign, world.store.campaign? 1 = some campaign ∧ campaign.IsDated := by
  intro world ended later
  have safe := lifecycle_safe (σ := Unit) (α := Binary64) (fun _ => True) fun _ => False
  have unfolds : Unfolds (fun _ => True) (fun _ => False) ended later :=
    World.after_unfolds (.rest ended) _ (by simp)
  have reached : Reached (fun _ => True) world :=
    ⟨_, _, World.after_unfolds (.rest _) _ (Sample.prepared_plain _ (by simp))⟩
  have cancelled : (ended.store.campaign? 1).any (·.status.isTerminal) = true := by decide +kernel
  have cancels : (Pass.incidents Sample.cancelling 1 world).any (fun call =>
      (call.after.store.campaign? 1).any (·.status.isTerminal)) = true := by decide +kernel
  have found : (world.store.campaign? 1).isSome = true := by decide +kernel
  refine ⟨?_, ?_, ?_, ?_⟩
  · obtain ⟨old, here, terminal⟩ := (Option.any_eq_true _ _).mp cancelled
    obtain ⟨new, there, _, same⟩ := safe.1 unfolds 1 old here
    exact ⟨old, here, terminal, same terminal id ▸ there⟩
  · obtain ⟨call, member, holds⟩ := List.any_eq_true.mp cancels
    obtain ⟨old, here, terminal⟩ := (Option.any_eq_true _ _).mp holds
    refine (safe.2.1 Sample.cancelling (Sample.cancelling_unfolds _) 1 world).mono
      fun _ after ends => ?_
    obtain ⟨new, there, endures, _⟩ := ends call member 1 old here
    exact ⟨call, member, old, new, here, terminal, there, endures.ended terminal⟩
  · have fails : Ends (Operation.begin 2).run world fun result _ => result.toOption = none := by
      unfold Ends Leads
      decide +kernel
    refine (fails.and ((safe.2.2 world reached).1 (.begin 2))).mono ?_
    rintro result after ⟨fails, same⟩
    have fails : result ≠ .ok true := by
      rintro rfl
      cases fails
    exact ⟨fails, same fails⟩
  · obtain ⟨campaign, here⟩ := Option.isSome_iff_exists.mp found
    exact ⟨campaign, here, (safe.2.2 world reached).2 1 campaign here⟩

end Herald
