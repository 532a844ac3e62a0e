import Mathlib.Order.Defs.Unbundled
import Herald.World

/-! # What actions lead to

An action is a function from a world to a value and a world. `Leads` says what holds of both, and
`Ends` says it of an action that may fail. `Moves` looks at the worlds alone: wherever the action
starts, the world after it is related to the one before. Each way of building an action has one rule
here, so that what an action leads to is read off its parts without unfolding the state underneath.
-/

namespace Herald

variable {σ α β γ : Type}

/-- The second part of a computation has a value only if the first one has. -/
theorem ok_of_bind {ε : Type} {found : Except ε α} {next : α → Except ε β} {value : β}
    (ok : found >>= next = .ok value) : ∃ first, found = .ok first ∧ next first = .ok value := by
  cases found with
  | ok first => exact ⟨first, rfl, ok⟩
  | error failure => cases ok

theorem ok_of_toOption {found : Except Failure α} {value : α}
    (some : found.toOption = some value) : found = .ok value := by
  cases found with
  | ok first => exact congrArg Except.ok (Option.some.inj some)
  | error failure => cases some

/-- What succeeds is followed by what succeeds. -/
theorem exists_ok_bind {found : Except Failure α} {next : α → Except Failure β}
    (ok : ∃ first, found = .ok first) (rest : ∀ first, ∃ value, next first = .ok value) :
    ∃ value, found >>= next = .ok value := by
  obtain ⟨first, rfl⟩ := ok
  exact rest first

/-- What has a known value is followed by what succeeds on it. -/
theorem exists_ok_bind_of {found : Except Failure α} {next : α → Except Failure β} {first : α}
    (ok : found = .ok first) (rest : ∃ value, next first = .ok value) :
    ∃ value, found >>= next = .ok value := by
  rw [ok]
  exact rest

/-- A number that fits into a cell is handed on as it is. -/
theorem fitted_eq {id number : Int} (fits : Cell.fitted number = .ok id) : id = number := by
  unfold Cell.fitted at fits
  split at fits
  · exact (Except.ok.inj fits).symm
  · cases fits

/-- What holds of the value of an action and of the world after it. -/
def Leads (action : Steady σ α β) (world : World σ α) (after : β → World σ α → Prop) : Prop :=
  after (action.run world).1 (action.run world).2

/-- What holds of the value or failure of an action and of the world after it. -/
def Ends (action : Run σ α β) (world : World σ α)
    (after : Except Failure β → World σ α → Prop) : Prop :=
  Leads action.run world after

section Leads

variable {world : World σ α} {action : Steady σ α β} {next : β → Steady σ α γ}

theorem leads_pure {value : β} {after : β → World σ α → Prop} :
    Leads (pure value) world after ↔ after value world := Iff.rfl

theorem leads_bind {after : γ → World σ α → Prop} :
    Leads (action >>= next) world after ↔
      Leads action world fun value world => Leads (next value) world after := Iff.rfl

theorem leads_get {after : World σ α → World σ α → Prop} :
    Leads get world after ↔ after world world := Iff.rfl

theorem Leads.mono {after weaker : β → World σ α → Prop} (leads : Leads action world after)
    (weaken : ∀ value world, after value world → weaker value world) :
    Leads action world weaker := weaken _ _ leads

theorem Leads.and {first second : β → World σ α → Prop} (left : Leads action world first)
    (right : Leads action world second) :
    Leads action world fun value world => first value world ∧ second value world := ⟨left, right⟩

theorem leads_true (action : Steady σ α β) (world : World σ α) :
    Leads action world fun _ _ => True := trivial

/-- What does not depend on what an action leads to holds without it. -/
theorem Leads.elim {holds : Prop} (leads : Leads action world fun _ _ => holds) : holds := leads

/-- Two conditions that agree on what an action leads to hold of it alike. -/
theorem Leads.congr {holds first second : β → World σ α → Prop} (leads : Leads action world holds)
    (agree : ∀ value world, holds value world → (first value world ↔ second value world)) :
    Leads action world first ↔ Leads action world second := agree _ _ leads

end Leads

section Ends

variable {world : World σ α} {action : Run σ α β} {next : β → Run σ α γ}

theorem leads_run {after : Except Failure β → World σ α → Prop} :
    Leads action.run world after ↔ Ends action world after := Iff.rfl

theorem ends_pure {value : β} {after : Except Failure β → World σ α → Prop} :
    Ends (pure value) world after ↔ after (.ok value) world := Iff.rfl

theorem ends_throw {failure : Failure} {after : Except Failure β → World σ α → Prop} :
    Ends (throw failure) world after ↔ after (.error failure) world := Iff.rfl

/-- The second action runs only if the first one has a value. -/
theorem ends_bind {after : Except Failure γ → World σ α → Prop} :
    Ends (action >>= next) world after ↔
      Ends action world fun result world =>
        match result with
        | .ok value => Ends (next value) world after
        | .error failure => after (.error failure) world := by
  rw [Ends, ExceptT.run_bind, leads_bind]
  refine iff_of_eq (congrArg (Leads action.run world) ?_)
  funext result world
  cases result <;> rfl

theorem ends_lift {steady : Steady σ α β} {after : Except Failure β → World σ α → Prop} :
    Ends (liftM steady) world after ↔ Leads steady world fun value => after (.ok value) := Iff.rfl

theorem ends_attempt {after : Except Failure (Except Failure β) → World σ α → Prop} :
    Ends (Run.attempt action) world after ↔ Ends action world fun result => after (.ok result) :=
  Iff.rfl

theorem ends_clock {after : Except Failure Moment → World σ α → Prop} :
    Ends Run.clock world after ↔ after (.ok world.now) world := Iff.rfl

theorem ends_pure? {found : Except Failure β} {after : Except Failure β → World σ α → Prop} :
    Ends (Run.pure? found) world after ↔ after found world := by
  cases found <;> exact Iff.rfl

theorem ends_get {after : Except Failure (World σ α) → World σ α → Prop} :
    Ends get world after ↔ after (.ok world) world := Iff.rfl

/-- Reading from created tables does not fail by itself. -/
theorem ends_query {read : Store α → β} {after : Except Failure β → World σ α → Prop}
    (created : world.store.created = true) :
    Ends (Run.query read) world after ↔ after (.ok (read world.store)) world := by
  simp only [Run.query, ends_bind, ends_get, created, ↓reduceIte, ends_pure]

theorem ends_consult {read : Store α → Except Failure β}
    {after : Except Failure β → World σ α → Prop} (created : world.store.created = true) :
    Ends (Run.consult read) world after ↔ after (read world.store) world := by
  simp only [Run.consult, ends_bind, ends_get, created, ↓reduceIte]
  cases read world.store <;> exact Iff.rfl

/-- A write to created tables fails only by itself, and then leaves them as they are. -/
theorem ends_commit {write : Store α → Except Failure (β × Store α)}
    {after : Except Failure β → World σ α → Prop} (created : world.store.created = true) :
    Ends (Run.commit write) world after ↔
      match write world.store with
      | .ok (value, store) => after (.ok value) { world with store }
      | .error failure => after (.error failure) world := by
  simp only [Run.commit, ends_bind, ends_get, created, ↓reduceIte]
  cases write world.store <;> exact Iff.rfl

/-- A write either fails, and leaves everything as it is, or has written. -/
theorem ends_commit_of {write : Store α → Except Failure (β × Store α)}
    {after : Except Failure β → World σ α → Prop} (fails : ∀ failure, after (.error failure) world)
    (writes : ∀ value store, write world.store = .ok (value, store) →
      after (.ok value) { world with store }) : Ends (Run.commit write) world after := by
  simp only [Run.commit, ends_bind, ends_get]
  split
  · cases wrote : write world.store with
    | ok written => exact writes _ _ wrote
    | error failure => exact fails failure
  · exact fails _

end Ends

section Moves

variable {R : World σ α → World σ α → Prop}

/-- Every world that the action leaves behind is related to the one it started from. -/
def Moves (R : World σ α → World σ α → Prop) (action : Steady σ α β) : Prop :=
  ∀ world, R world (action.run world).2

theorem moves_iff {action : Steady σ α β} :
    Moves R action ↔ ∀ world, Leads action world fun _ after => R world after := Iff.rfl

theorem Moves.leads {action : Steady σ α β} (moves : Moves R action) (world : World σ α) :
    Leads action world fun _ after => R world after := moves world

theorem Moves.mono {S : World σ α → World σ α → Prop} {action : Steady σ α β}
    (moves : Moves R action) (weaken : ∀ before after, R before after → S before after) :
    Moves S action := fun world => weaken _ _ (moves world)

variable [IsPreorder (World σ α) R]

theorem moves_bind {action : Steady σ α β} {next : β → Steady σ α γ}
    (first : Moves R action) (rest : ∀ value, Moves R (next value)) :
    Moves R (action >>= next) :=
  fun world => IsTrans.trans _ _ _ (first world) (rest _ _)

theorem moves_pure {value : β} : Moves R (pure value : Steady σ α β) := fun world => refl world

/-! ### Actions that may fail -/

theorem moves_run_bind {action : Run σ α β} {next : β → Run σ α γ}
    (first : Moves R action.run) (rest : ∀ value, Moves R (next value).run) :
    Moves R (action >>= next).run := by
  rw [ExceptT.run_bind]
  refine moves_bind first fun result => ?_
  cases result with
  | ok value => exact rest value
  | error failure => exact moves_pure

omit [IsPreorder (World σ α) R] in
theorem moves_lift {action : Steady σ α β} (moves : Moves R action) :
    Moves R (liftM action : Run σ α β).run := moves

theorem moves_run_pure {value : β} : Moves R (pure value : Run σ α β).run := moves_pure

theorem moves_throw {failure : Failure} : Moves R (throw failure : Run σ α β).run := moves_pure

/-- What stands behind a failure does not run. -/
theorem moves_throw_bind {failure : Failure} {next : β → Run σ α γ} :
    Moves R (throw failure >>= next : Run σ α γ).run := fun world => refl world

theorem moves_run_get : Moves R (get : Run σ α (World σ α)).run := fun world => refl world

theorem moves_clock : Moves R (Run.clock : Run σ α Moment).run := fun world => refl world

theorem moves_pure? {found : Except Failure β} : Moves R (Run.pure? found : Run σ α β).run := by
  cases found <;> exact moves_pure

/-- What follows a computation runs only on its value. -/
theorem moves_pure?_bind {found : Except Failure β} {next : β → Run σ α γ}
    (rest : ∀ value, found = .ok value → Moves R (next value).run) :
    Moves R (Run.pure? found >>= next).run := by
  cases found with
  | ok value => exact rest value rfl
  | error failure => exact moves_throw_bind

theorem moves_query {read : Store α → β} : Moves R (Run.query read : Run σ α β).run := by
  refine moves_run_bind moves_run_get fun world => ?_
  split
  · exact moves_run_pure
  · exact moves_throw

theorem moves_consult {read : Store α → Except Failure β} :
    Moves R (Run.consult read : Run σ α β).run := by
  refine moves_run_bind moves_run_get fun world => ?_
  split
  · cases read world.store <;> exact moves_pure
  · exact moves_throw

/-- A write moves along a relation if what it makes of any tables does. -/
theorem moves_commit {write : Store α → Except Failure (β × Store α)}
    (writes : ∀ (world : World σ α) value store, world.store.created = true →
      write world.store = .ok (value, store) → R world { world with store }) :
    Moves R (Run.commit write : Run σ α β).run := by
  refine moves_iff.mpr fun world => leads_run.mpr ?_
  simp only [Run.commit, ends_bind, ends_get]
  by_cases created : world.store.created = true
  · rw [if_pos created]
    cases wrote : write world.store with
    | ok written => exact writes world written.1 written.2 created wrote
    | error failure => exact refl world
  · rw [if_neg created]
    exact refl world

omit [IsPreorder (World σ α) R] in
/-- An action that leaves the world alone leads to its value there. -/
theorem leads_iff_of_still {action : Steady σ α β} {world : World σ α}
    {after : β → World σ α → Prop} (still : Moves Eq action) :
    Leads action world after ↔ after (action.run world).1 world := by
  unfold Leads
  rw [← still world]

omit [IsPreorder (World σ α) R] in
theorem leads_of_still {action : Steady σ α β} {world : World σ α}
    {after : β → World σ α → Prop} (still : Moves Eq action)
    (holds : ∀ value, after value world) : Leads action world after :=
  (leads_iff_of_still still).mpr (holds _)

omit [IsPreorder (World σ α) R] in
/-- An action that leaves the world alone has a value if what follows it has one. -/
theorem ends_ok_of_bind {action : Run σ α β} {next : β → Run σ α γ} {world : World σ α} {value : γ}
    (still : Moves Eq action.run)
    (ok : Ends (action >>= next) world fun result _ => result = .ok value) : ∃ first,
      Ends action world (fun result _ => result = .ok first) ∧
        Ends (next first) world fun result _ => result = .ok value := by
  rw [ends_bind, Ends, leads_iff_of_still still] at ok
  cases found : (action.run.run world).1 with
  | error failure =>
    rw [found] at ok
    cases ok
  | ok first =>
    rw [found] at ok
    exact ⟨first, found, ok⟩

end Moves

end Herald
