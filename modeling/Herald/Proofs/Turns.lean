import Herald.Proofs.Changes
import Herald.Proofs.History

/-! # Whose turn it is

A pass claims its campaign by moving it to sending, which it may do from a few statuses only, and
sending is none of them, so whoever has claimed a campaign keeps it until its status is moved on: by
the pass itself, or by an operator who cancels. `Turn` says what a single operation can do to the
status of a campaign, whatever the operation is about and however it ends, and what a success shows
of the campaign's passes.
-/

namespace Herald

variable {σ α : Type}

/-! ## Operations -/

/-- What a pass moves its campaign on to. -/
inductive Exit
  | completed
  | paused
  | active
  deriving DecidableEq

def Exit.status : Exit → CampaignStatus
  | .completed => .completed
  | .paused => .paused
  | .active => .active

/-- A pass that was not cancelled leaves by one of the exits. -/
theorem Pass.leaving_exit {settings : Settings} {campaign : Campaign α} {outOfBalance : Bool}
    {now : Moment} {leaving : Leaving}
    (leaves : Pass.leaving settings campaign outOfBalance now = .ok leaving) :
    ∃ exit : Exit, leaving.status = exit.status := by
  unfold Pass.leaving at leaves
  split at leaves
  · cases leaves
    exact ⟨.paused, rfl⟩
  · split at leaves
    · cases leaves
      exact ⟨.completed, rfl⟩
    · cases next : Pass.nextRun settings campaign now with
      | error failure => simp [next, Except.map] at leaves
      | ok time =>
        simp only [next, Except.map, Except.ok.injEq] at leaves
        exact ⟨.active, by rw [← leaves]; rfl⟩

/-- A pass leaves its campaign paused exactly if the balance has run out. -/
theorem Pass.leaving_paused {settings : Settings} {campaign : Campaign α} {outOfBalance : Bool}
    {now : Moment} {leaving : Leaving}
    (leaves : Pass.leaving settings campaign outOfBalance now = .ok leaving) :
    leaving.status = .paused ↔ outOfBalance = true := by
  unfold Pass.leaving at leaves
  split at leaves
  · rename_i broke
    cases leaves
    exact ⟨fun _ => broke, fun _ => rfl⟩
  · rename_i going
    refine ⟨fun paused => ?_, fun broke => absurd broke going⟩
    split at leaves
    · cases leaves
      cases paused
    · cases next : Pass.nextRun settings campaign now with
      | error failure => simp [next, Except.map] at leaves
      | ok time =>
        simp only [next, Except.map, Except.ok.injEq] at leaves
        rw [← leaves] at paused
        cases paused

/-- What operators, passes and the scheduler do to a stored campaign on its own. -/
inductive Operation
  | create (tenant : String) (draft : Draft)
  | operate (action : OperatorAction)
  | begin (id : Int)
  | finish (id : Int) (exit : Exit) (pauseReason : Option String)
    (completedAt nextRunAt : Option Moment)
  | markFailed (id : Int) (reason : String)
  | expire (id : Int) (now : Moment)

/-- What the operations that succeed show of a campaign's passes. -/
inductive Mark
  | begun
  | left (exit : Exit)
  | failed
  | expired
  | cancelled
  deriving DecidableEq

namespace Mark

/-- Whether a pass ends here of its own accord. -/
def endsPass : Mark → Bool
  | .left _ => true
  | .failed => true
  | _ => false

/-- Whether the campaign is over. -/
def isFinal : Mark → Bool
  | .begun => false
  | .left exit => exit == .completed
  | _ => true

end Mark

namespace Operation

/-- Carry out an operation and tell whether it succeeds. -/
def run [Amount α] : Operation → Run σ α Bool
  | create tenant draft => do
    let _ ← (Lifecycle.create tenant draft : Run σ α (Campaign α))
    return true
  | operate action => do
    let _ ← (action.run : Run σ α (Campaign α))
    return true
  | begin id => do
    let _ ← (Lifecycle.begin id : Run σ α (Option (Campaign α)))
    return true
  | finish id exit pauseReason completedAt nextRunAt => do
    let now ← Run.clock
    Lifecycle.finish id exit.status
      (Pass.left ⟨exit.status, pauseReason, completedAt, nextRunAt⟩ now)
  | markFailed id reason => Lifecycle.markFailed id reason
  | expire id now => Lifecycle.expire id now

/-- What the operation shows of a campaign's passes if it succeeds. -/
def mark? (id : Int) : Operation → Option Mark
  | begin other => if other = id then some .begun else none
  | finish other exit .. => if other = id then some (.left exit) else none
  | markFailed other _ => if other = id then some .failed else none
  | expire other _ => if other = id then some .expired else none
  | operate (.cancel other) => if other = id then some .cancelled else none
  | _ => none

end Operation

/-- What an operation that ends like this shows of a campaign's passes. -/
def shown (mark? : Option Mark) : Except Failure Bool → Option Mark
  | .ok true => mark?
  | _ => none

/-- What is shown without a mark is nothing. -/
@[simp] theorem shown_none (result : Except Failure Bool) : shown none result = none := by
  unfold shown
  split <;> rfl

/-- What a sequence of operations, each attempted at its own time, shows of a campaign's passes. -/
def World.marks [Amount α] (id : Int) (world : World σ α) : List (Moment × Operation) → List Mark
  | [] => []
  | (now, operation) :: rest =>
    let (result, after) := (operation.run.run).run { world with now }
    (shown (operation.mark? id) result).toList ++ World.marks id after rest

/-! ## What one operation does -/

/-- What an operation shows of a campaign's passes, and where the campaign stands before and after
it. Nothing that shows nothing leads into or out of a pass, or changes a campaign that is over. -/
inductive Turn : Option Mark → Option CampaignStatus → Option CampaignStatus → Prop
  | still (status : Option CampaignStatus) : Turn none status status
  | idle {before after : Option CampaignStatus} (waiting : before ≠ some .sending)
    (ongoing : before.all fun status => !status.isTerminal) (waits : after ≠ some .sending) :
    Turn none before after
  | begun {status : CampaignStatus} (runnable : status.isRunnable = true) :
    Turn (some .begun) (some status) (some .sending)
  | left (exit : Exit) : Turn (some (.left exit)) (some .sending) (some exit.status)
  | failed : Turn (some .failed) (some .sending) (some .failed)
  | expired : Turn (some .expired) (some .active) (some .completed)
  | cancelled {status : CampaignStatus} (ongoing : status.isTerminal = false) :
    Turn (some .cancelled) (some status) (some .cancelled)

namespace Turn

/-- Two turns that show nothing are one. -/
theorem rest {first second third : Option CampaignStatus} (left : Turn none first second)
    (right : Turn none second third) : Turn none first third := by
  cases left with
  | still => exact right
  | idle waiting ongoing waits =>
    cases right with
    | still => exact .idle waiting ongoing waits
    | idle _ _ waits => exact .idle waiting ongoing waits

/-- A campaign does not begin to send unless that is shown. -/
theorem waits {before after : Option CampaignStatus} (turn : Turn none before after)
    (waiting : before ≠ some .sending) : after ≠ some .sending := by
  cases turn with
  | still => exact waiting
  | idle _ _ waits => exact waits

/-- A campaign that is sending goes on with it unless something else is shown. -/
theorem sends {after : Option CampaignStatus} (turn : Turn none (some .sending) after) :
    after = some .sending := by
  cases turn with
  | still => rfl
  | idle waiting => exact absurd rfl waiting

/-- A pass of a campaign begins where no pass is. -/
theorem begins {before after : Option CampaignStatus} (turn : Turn (some .begun) before after) :
    before ≠ some .sending ∧ after = some .sending := by
  cases turn with
  | begun runnable =>
    refine ⟨?_, rfl⟩
    rintro ⟨⟩
    cases runnable

/-- Only a campaign that is sending is moved on by its pass. -/
theorem ends {mark : Mark} {before after : Option CampaignStatus}
    (turn : Turn (some mark) before after) (endsPass : mark.endsPass = true) :
    before = some .sending := by
  cases turn <;> first | rfl | cases endsPass

/-- Nothing but the begin of a pass makes a campaign send. -/
theorem begun_of_sending {mark : Mark} {before : Option CampaignStatus}
    (turn : Turn (some mark) before (some .sending)) : mark = .begun := by
  generalize sending : some CampaignStatus.sending = after at turn
  cases turn with
  | left exit => cases exit <;> cases sending
  | begun => rfl
  | _ => cases sending

/-- A campaign is over behind a final mark. -/
theorem terminal {mark : Mark} {before after : Option CampaignStatus}
    (turn : Turn (some mark) before after) (final : mark.isFinal = true) :
    ∃ status, after = some status ∧ status.isTerminal = true := by
  cases turn with
  | begun => cases final
  | left exit =>
    cases beq_iff_eq.mp final
    exact ⟨_, rfl, rfl⟩
  | failed => exact ⟨_, rfl, rfl⟩
  | expired => exact ⟨_, rfl, rfl⟩
  | cancelled => exact ⟨_, rfl, rfl⟩

/-- A campaign that is over takes no more turns. -/
theorem still_of_terminal {mark : Option Mark} {status : CampaignStatus}
    {after : Option CampaignStatus} (turn : Turn mark (some status) after)
    (terminal : status.isTerminal = true) : mark = none ∧ after = some status := by
  generalize stood : some status = before at turn
  cases turn with
  | still => exact ⟨rfl, stood ▸ rfl⟩
  | idle _ ongoing =>
    subst stood
    simp [terminal] at ongoing
  | begun runnable =>
    cases stood
    cases status <;> simp_all [CampaignStatus.isTerminal, CampaignStatus.isRunnable]
  | cancelled ongoing =>
    cases stood
    cases terminal.symm.trans ongoing
  | _ =>
    cases stood
    cases terminal

end Turn

namespace Lifecycle

/-- An operation that is one transition turns a campaign as the transition does. -/
theorem Ending.turn {id : Int} {allowed : CampaignStatus → Bool} {target : CampaignStatus}
    {world after : World σ α} {result : Except Failure Bool}
    (ending : Ending id allowed target world after result) (other : Int) (mark : Option Mark)
    (turns : ∀ status, allowed status = true → Turn mark (some status) (some target)) :
    Turn (shown (if id = other then mark else none) result) (world.status? other)
      (after.status? other) := by
  have same : (∀ other, after.status? other = world.status? other) →
      Turn none (world.status? other) (after.status? other) := by
    intro same
    rw [same]
    exact .still _
  rcases result with failure | _ | _
  · exact same ending
  · exact same ending.2
  · have changed : Changed .. := ending
    by_cases about : id = other
    · subst about
      obtain ⟨status, stands, allows⟩ := changed.allows
      rw [shown, if_pos rfl, stands, changed.status_eq]
      exact turns status allows
    · rw [shown, if_neg about, changed.others other (Ne.symm about)]
      exact .still _

end Lifecycle

/-- Nothing happens to a campaign that a pass or the end of the campaign would show. -/
def Rests (id : Int) (before after : World σ α) : Prop :=
  Turn none (before.status? id) (after.status? id)

instance (id : Int) : IsPreorder (World σ α) (Rests id) where
  refl _ := .still _
  trans _ _ _ left right := Turn.rest left right

namespace Lifecycle

/-- A transition between statuses of waiting campaigns. -/
theorem transition_rests (id other : Int) (allowed : CampaignStatus → Bool)
    {target : CampaignStatus} {change : Campaign α → Campaign α}
    (ids : ∀ campaign, (change campaign).id = campaign.id)
    (leads : ∀ campaign, (change campaign).status = target) (waits : target ≠ .sending)
    (waiting : ∀ status, allowed status = true → status ≠ .sending ∧ status.isTerminal = false) :
    Moves (Rests other) (transition id allowed change : Run σ α Bool).run := by
  refine moves_iff.mpr fun world => (transition_changed id allowed ids leads world).mono ?_
  intro result after ending
  have turn := ending.turn other none fun status allows =>
    .idle (by simpa using (waiting status allows).1) (by simpa using (waiting status allows).2)
      (by simpa using waits)
  rwa [ite_self, shown_none] at turn

theorem activate_rests (zone : Zone) (id other : Int) :
    Moves (Rests other) (activate zone id : Run σ α (Campaign α)).run := by
  have activates : ∀ nextRun : Moment, Moves (Rests other) (transition id
      (fun status => status == .draft || status == .paused) fun campaign : Campaign α =>
        { campaign with status := .active, nextRunAt := some nextRun, pauseReason := none } :
          Run σ α Bool).run := fun nextRun =>
    transition_rests id other _ (fun _ => rfl) (fun _ => rfl) (by decide) fun status allows => by
      cases status <;> simp_all [CampaignStatus.isTerminal]
  refine moves_run_bind (get?_moves id none) fun found => ?_
  cases found with
  | none => exact moves_throw
  | some campaign =>
    dsimp only
    split
    · exact moves_run_bind moves_throw fun _ => moves_run_bind moves_clock fun now =>
        moves_run_bind moves_pure? fun next => moves_run_bind (activates next) fun changed =>
          require_moves id changed _
    · exact moves_run_bind moves_clock fun now => moves_run_bind moves_pure? fun next =>
        moves_run_bind (activates next) fun changed => require_moves id changed _

theorem create_rests [Amount α] (tenant : String) (draft : Draft) (id : Int) :
    Moves (Rests id) (create tenant draft : Run σ α (Campaign α)).run := by
  refine create_moves fun world now created => ?_
  unfold Rests World.status? Store.campaign?
  rw [List.find?_append]
  cases found : world.store.campaigns.find? fun campaign => campaign.id == id with
  | some campaign => exact .still _
  | none =>
    refine .idle (by simp) (by simp) ?_
    simp only [Option.none_or]
    intro sending
    obtain ⟨campaign, new, sending⟩ := Option.map_eq_some_iff.mp sending
    cases List.mem_singleton.mp (List.mem_of_find?_eq_some new)
    cases sending

end Lifecycle

namespace Operation

variable {world : World σ α} {id : Int}

/-- An operation turns a campaign in one of the possible ways, however it ends. -/
def Turns [Amount α] (operation : Operation) (id : Int) (world : World σ α) : Prop :=
  Ends operation.run world fun result after =>
    Turn (shown (operation.mark? id) result) (world.status? id) (after.status? id)

variable [Amount α]

theorem turns_of_rests {operation : Operation} (unmarked : operation.mark? id = none)
    (rests : Moves (Rests id) (operation.run : Run σ α Bool).run) : operation.Turns id world := by
  unfold Turns
  rw [unmarked]
  simp only [shown_none]
  exact rests world

theorem begin_turns (target : Int) : (Operation.begin target).Turns id world := by
  rw [Turns, run, Lifecycle.begin, ends_bind, ends_bind, ends_clock]
  dsimp only
  rw [ends_bind]
  refine Lifecycle.ends_transition .sending (fun _ => rfl) (fun _ => rfl)
    fun result middle ending _ => ?_
  have turn := ending.turn id (some .begun) fun status => .begun
  rcases result with failure | _ | _
  · exact turn
  · dsimp only
    rw [if_neg Bool.false_ne_true, ends_bind]
    refine leads_of_still (Lifecycle.status?_moves target) fun status => ?_
    cases status <;> exact turn
  · have changed : Lifecycle.Changed .. := ending
    dsimp only
    rw [if_pos rfl, Pass.get?_ends changed.created, changed.fitted]
    exact turn

theorem cancel_turns (target : Int) : (Operation.operate (.cancel target)).Turns id world := by
  rw [Turns, run, OperatorAction.run, Lifecycle.cancel, ends_bind, ends_bind, ends_clock]
  dsimp only
  rw [ends_bind]
  refine Lifecycle.ends_transition .cancelled (fun _ => rfl) (fun _ => rfl)
    fun result middle ending _ => ?_
  have turn := ending.turn id (some .cancelled) fun status ongoing =>
    .cancelled (by simpa using ongoing)
  rcases result with failure | changed
  · exact turn
  · dsimp only
    refine Leads.mono (Lifecycle.require_ends fun happened => ?_) ?_
    · cases happened
      exact ending.stands
    · rintro found after ⟨rfl, hands⟩
      cases changed with
      | true =>
        obtain ⟨campaign, rfl⟩ := hands.mp rfl
        exact turn
      | false =>
        cases found with
        | error failure => exact turn
        | ok campaign => exact absurd (hands.mpr ⟨campaign, rfl⟩) Bool.false_ne_true

/-- Whatever is done, and to whichever campaign, a campaign turns in one of the possible ways. -/
theorem turns (operation : Operation) (id : Int) (world : World σ α) :
    operation.Turns id world := by
  have hands : ∀ action : OperatorAction, (operate action).mark? id = none →
      Moves (Rests id) (action.run : Run σ α (Campaign α)).run →
        (operate action).Turns id world := fun action unmarked rests =>
    turns_of_rests unmarked (moves_run_bind rests fun _ => moves_run_pure)
  cases operation with
  | create tenant draft =>
    exact turns_of_rests rfl
      (moves_run_bind (Lifecycle.create_rests tenant draft id) fun _ => moves_run_pure)
  | begin target => exact begin_turns target
  | finish target exit pauseReason completedAt nextRunAt =>
    rw [Turns, run, ends_bind, ends_clock]
    dsimp only
    rw [Lifecycle.finish]
    refine Lifecycle.ends_transition exit.status (fun _ => rfl) (fun _ => rfl)
      fun result after ending _ => ?_
    refine ending.turn id (some (.left exit)) fun status sending => ?_
    cases beq_iff_eq.mp sending
    exact .left exit
  | markFailed target reason =>
    rw [Turns, run, Lifecycle.markFailed, ends_bind, ends_clock]
    dsimp only
    refine Lifecycle.ends_transition .failed (fun _ => rfl) (fun _ => rfl)
      fun result after ending _ => ?_
    refine ending.turn id (some .failed) fun status sending => ?_
    cases beq_iff_eq.mp sending
    exact .failed
  | expire target now =>
    rw [Turns, run, Lifecycle.expire]
    refine Lifecycle.ends_transition .completed (fun _ => rfl) (fun _ => rfl)
      fun result after ending _ => ?_
    refine ending.turn id (some .expired) fun status active => ?_
    cases beq_iff_eq.mp active
    exact .expired
  | operate action =>
    cases action with
    | cancel target => exact cancel_turns target
    | activate zone target => exact hands _ rfl (Lifecycle.activate_rests zone target id)
    | schedule target time =>
      refine hands _ rfl (moves_run_bind moves_clock fun now => moves_run_bind
        (Lifecycle.transition_rests target id _ (fun _ => rfl) (fun _ => rfl) (by decide) ?_)
          fun changed => Lifecycle.require_moves target changed _)
      intro status allows
      cases beq_iff_eq.mp allows
      decide
    | pause target reason =>
      refine hands _ rfl (moves_run_bind
        (Lifecycle.transition_rests target id _ (fun _ => rfl) (fun _ => rfl) (by decide) ?_)
          fun changed => Lifecycle.require_moves target changed _)
      intro status allows
      cases status <;> simp_all [CampaignStatus.isTerminal]
    | resume zone target =>
      refine hands _ rfl (moves_run_bind (Lifecycle.get?_moves target none) fun found => ?_)
      split
      · exact Lifecycle.activate_rests zone target id
      · refine moves_run_bind
          (Lifecycle.transition_rests target id _ (fun _ => rfl) (fun _ => rfl) (by decide) ?_)
            fun changed => Lifecycle.require_moves target changed _
        intro status allows
        cases beq_iff_eq.mp allows
        decide

end Operation

end Herald
