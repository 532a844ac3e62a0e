import Herald.Proofs.Once
import Herald.Proofs.Waiting

/-! # What a tick finds to run

Which campaigns the scheduler finds at a time is told by the tables and the time: those that wait
and whose time has come, as far as their run windows are open, those that run once before those that
repeat.
-/

namespace Herald

variable {σ α : Type} {zone : Zone} {now : Moment} {campaign : Campaign α}

theorem Campaign.isOneTime_of_isAutomated (again : campaign.isAutomated = true) :
    campaign.isOneTime = false := by
  by_contra once
  rw [isAutomated_of_isOneTime (Bool.eq_true_of_not_eq_false once)] at again
  cases again

namespace Lifecycle

/-- The campaigns that are to run at a time, in terms of the tables. -/
def dueIn (now : Moment) (store : Store α) : List (Campaign α) :=
  let due := store.campaigns.filter (isDue now)
  due.filter Campaign.isOneTime ++ due.filter Campaign.isAutomated

/-- Whatever is due either runs once or repeats. -/
theorem kind_of_isDue (due : isDue now campaign = true) :
    campaign.isOneTime = true ∨ campaign.isAutomated = true := by
  simp only [isDue, Bool.or_eq_true, Bool.and_eq_true] at due
  exact due.imp (fun once => once.1.1) fun again => again.1.1.1

/-- Whatever is due may begin. -/
theorem isRunnable_of_isDue (due : isDue now campaign = true) :
    campaign.status.isRunnable = true := by
  simp only [isDue, Bool.or_eq_true, Bool.and_eq_true, beq_iff_eq] at due
  rcases due with ⟨⟨-, scheduled⟩, -⟩ | ⟨⟨⟨-, active⟩, -⟩, -⟩
  · rw [scheduled]
    rfl
  · rw [active]
    rfl

theorem mem_dueIn {store : Store α} :
    campaign ∈ dueIn now store ↔ campaign ∈ store.campaigns ∧ isDue now campaign = true := by
  simp only [dueIn, List.mem_append, List.mem_filter]
  constructor
  · rintro (⟨due, -⟩ | ⟨due, -⟩) <;> exact due
  · exact fun due => (kind_of_isDue due.2).imp (fun once => ⟨due, once⟩) fun again => ⟨due, again⟩

/-- A campaign that repeats waits for its next run, and is not due before. -/
theorem not_isDue_before {next : Moment} (again : campaign.isAutomated = true)
    (waits : campaign.nextRunAt = some next) (early : now < next) : isDue now campaign = false := by
  have once := Campaign.isOneTime_of_isAutomated again
  have waits : campaign.nextRunAt.all (fun time => decide (time ≤ now)) = false := by
    rw [waits, Option.all_some, decide_eq_false_iff_not]
    exact Nat.not_le.mpr early
  simp only [isDue, once, waits, Bool.false_and, Bool.and_false, Bool.or_self]

end Lifecycle

namespace Scheduler

/-- Whether the scheduler finds the run window of a campaign open. -/
def opens (zone : Zone) (now : Moment) (campaign : Campaign α) : Bool :=
  match isOpen zone now campaign with
  | .ok isOpen => isOpen
  | .error _ => false

theorem opens_iff : opens zone now campaign = true ↔ isOpen zone now campaign = .ok true := by
  unfold opens
  cases isOpen zone now campaign with
  | error failure => exact ⟨nofun, nofun⟩
  | ok isOpen => exact ⟨congrArg Except.ok, Except.ok.inj⟩

/-- The campaigns that the scheduler finds at a time, in terms of the tables. -/
def foundIn (zone : Zone) (now : Moment) (store : Store α) : List (Campaign α) :=
  (Lifecycle.dueIn now store).filter (opens zone now)

theorem mem_foundIn {store : Store α} : campaign ∈ foundIn zone now store ↔
    campaign ∈ store.campaigns ∧ Lifecycle.isDue now campaign = true ∧
      isOpen zone now campaign = .ok true := by
  rw [foundIn, List.mem_filter, Lifecycle.mem_dueIn, opens_iff, and_assoc]

/-- The campaigns with open windows are kept, in their order. -/
theorem openOnes_eq {campaigns rest : List (Campaign α)}
    (found : openOnes zone now campaigns = .ok rest) :
    rest = campaigns.filter (opens zone now) := by
  induction campaigns generalizing rest with
  | nil =>
    cases found
    rfl
  | cons first others ih =>
    rw [openOnes] at found
    obtain ⟨isOpen, told, found⟩ := ok_of_bind found
    obtain ⟨remaining, remains, found⟩ := ok_of_bind found
    cases found
    have same : opens zone now first = isOpen := by rw [opens, told]
    rw [List.filter_cons, ← ih remains, same]

theorem foundIn_of_told {store : Store α} {campaigns : List (Campaign α)}
    (told : openOnes zone now (Lifecycle.dueIn now store) = .ok campaigns) :
    campaigns = foundIn zone now store := openOnes_eq told

/-- It can be told of every campaign that is due whether its run window is open. -/
def Reads (zone : Zone) (now : Moment) (store : Store α) : Prop :=
  ∀ campaign ∈ store.campaigns, Lifecycle.isDue now campaign = true →
    ∃ isOpen, Scheduler.isOpen zone now campaign = .ok isOpen

/-- Windows between whole hours can be read wherever there is a wall clock. -/
theorem reads_of_whole {store : Store α}
    (whole : ∀ campaign ∈ store.campaigns, campaign.window.IsWhole)
    (wall : (zone.wall? now).isSome = true) : Reads zone now store := by
  intro campaign member _
  unfold Scheduler.isOpen
  split
  · exact RunWindow.isOpenAt_ok (whole campaign member) wall
  · exact ⟨true, rfl⟩

theorem Reads.told {store : Store α} (reads : Reads zone now store) :
    openOnes zone now (Lifecycle.dueIn now store) = .ok (foundIn zone now store) := by
  obtain ⟨rest, told, -⟩ := openOnes_ok fun campaign member =>
    reads campaign (Lifecycle.mem_dueIn.mp member).1 (Lifecycle.mem_dueIn.mp member).2
  rw [told, foundIn_of_told told]

variable {engine : Engine σ α} {world : World σ α}
  (created : world.store.created = true)

include created

theorem due_ends {after : Except Failure (List (Campaign α)) → World σ α → Prop} :
    Ends (due engine now) world after ↔
      after (openOnes engine.settings.zone now (Lifecycle.dueIn now world.store)) world := by
  rw [due, ends_bind, Lifecycle.due, ends_query created]
  exact ends_pure?

/-- The scheduler finds the campaigns that are due and whose windows are open. -/
theorem due_ok (reads : Reads engine.settings.zone now world.store) :
    Ends (due engine now) world fun result after =>
      after = world ∧ result = .ok (foundIn engine.settings.zone now world.store) := by
  rw [due_ends created]
  exact ⟨rfl, reads.told⟩

end Scheduler

end Herald
