import Herald.Proofs.Action

/-! # Actions that run alike

Two actions run alike if they have the same value and whatever else they leave behind is related.
The relation between their worlds is open: it may say that one action is watched and the other one
is not, or that they run on stores which differ in what the actions have no business with. Each way
of building an action has one rule here, as it has for what a single action leads to.
-/

namespace Herald

variable {σ τ α β γ : Type} {R : World σ α → World τ α → Prop}

/-- From related worlds two actions have the same value and end in related worlds. -/
def Alike (R : World σ α → World τ α → Prop) (left : Steady σ α β) (right : Steady τ α β) : Prop :=
  ∀ first second, R first second →
    (right.run second).1 = (left.run first).1 ∧ R (left.run first).2 (right.run second).2

section Alike

theorem alike_pure {value : β} : Alike R (pure value) (pure value) :=
  fun _ _ related => ⟨rfl, related⟩

/-- What follows runs alike on every value that the first action can have. -/
theorem alike_bind_of {holds : β → Prop} {left : Steady σ α β} {right : Steady τ α β}
    {next : β → Steady σ α γ} {next' : β → Steady τ α γ} (first : Alike R left right)
    (known : ∀ world other, R world other → Leads left world fun value _ => holds value)
    (rest : ∀ value, holds value → Alike R (next value) (next' value)) :
    Alike R (left >>= next) (right >>= next') := by
  intro world other related
  obtain ⟨same, related'⟩ := first world other related
  change ((next' (right.run other).1).run (right.run other).2).1 =
      ((next (left.run world).1).run (left.run world).2).1 ∧
    R ((next (left.run world).1).run (left.run world).2).2
      ((next' (right.run other).1).run (right.run other).2).2
  rw [same]
  exact rest _ (known world other related) _ _ related'

theorem alike_bind {left : Steady σ α β} {right : Steady τ α β}
    {next : β → Steady σ α γ} {next' : β → Steady τ α γ} (first : Alike R left right)
    (rest : ∀ value, Alike R (next value) (next' value)) :
    Alike R (left >>= next) (right >>= next') := by
  have known : ∀ world other, R world other → Leads left world fun _ _ => True :=
    fun world _ _ => leads_true left world
  exact alike_bind_of first known fun value _ => rest value

/-- What looks at the worlds runs alike if it does so on any related ones. -/
theorem alike_get_bind {next : World σ α → Steady σ α β} {next' : World τ α → Steady τ α β}
    (rest : ∀ world other, R world other → Alike R (next world) (next' other)) :
    Alike R (get >>= next) (get >>= next') :=
  fun world other related => rest world other related world other related

/-! ### Actions that may fail -/

theorem alike_run_bind_of {holds : β → Prop} {left : Run σ α β} {right : Run τ α β}
    {next : β → Run σ α γ} {next' : β → Run τ α γ} (first : Alike R left.run right.run)
    (known : ∀ world other, R world other →
      Ends left world fun result _ => ∀ value, result = .ok value → holds value)
    (rest : ∀ value, holds value → Alike R (next value).run (next' value).run) :
    Alike R (left >>= next).run (right >>= next').run := by
  rw [ExceptT.run_bind, ExceptT.run_bind]
  refine alike_bind_of first known fun result holds => ?_
  cases result with
  | ok value => exact rest value (holds value rfl)
  | error failure => exact alike_pure

theorem alike_run_bind {left : Run σ α β} {right : Run τ α β} {next : β → Run σ α γ}
    {next' : β → Run τ α γ} (first : Alike R left.run right.run)
    (rest : ∀ value, Alike R (next value).run (next' value).run) :
    Alike R (left >>= next).run (right >>= next').run := by
  rw [ExceptT.run_bind, ExceptT.run_bind]
  refine alike_bind first fun result => ?_
  cases result with
  | ok value => exact rest value
  | error failure => exact alike_pure

theorem alike_run_pure {value : β} :
    Alike R (pure value : Run σ α β).run (pure value : Run τ α β).run := alike_pure

theorem alike_throw {failure : Failure} :
    Alike R (throw failure : Run σ α β).run (throw failure : Run τ α β).run := alike_pure

/-- What stands behind a failure does not run. -/
theorem alike_throw_bind {failure : Failure} {next : β → Run σ α γ} {next' : β → Run τ α γ} :
    Alike R (throw failure >>= next : Run σ α γ).run (throw failure >>= next' : Run τ α γ).run :=
  fun _ _ related => ⟨rfl, related⟩

theorem alike_lift {left : Steady σ α β} {right : Steady τ α β} (alike : Alike R left right) :
    Alike R (liftM left : Run σ α β).run (liftM right : Run τ α β).run := fun world other related =>
  ⟨congrArg Except.ok (alike world other related).1, (alike world other related).2⟩

theorem alike_attempt {left : Run σ α β} {right : Run τ α β} (alike : Alike R left.run right.run) :
    Alike R (Run.attempt left).run (Run.attempt right).run := alike_lift alike

theorem alike_run_get_bind {next : World σ α → Run σ α β} {next' : World τ α → Run τ α β}
    (rest : ∀ world other, R world other → Alike R (next world).run (next' other).run) :
    Alike R (get >>= next).run (get >>= next').run :=
  fun world other related => rest world other related world other related

/-- A write runs alike on tables of which it sees the same, if what it leaves there is related. -/
theorem alike_commit {κ : Type} {f : Store α → κ} {write : Store α → Except Failure (β × Store α)}
    (created : ∀ world other, R world other → other.store.created = world.store.created)
    (same : ∀ world other, R world other →
      (write other.store).map (Prod.map id f) = (write world.store).map (Prod.map id f))
    (puts : ∀ world other value store value' store', R world other →
      write world.store = .ok (value, store) → write other.store = .ok (value', store') →
        f store' = f store → R { world with store } { other with store := store' }) :
    Alike R (Run.commit write : Run σ α β).run (Run.commit write : Run τ α β).run := by
  refine alike_run_get_bind fun world other related => ?_
  have same := same world other related
  rw [created world other related]
  split
  · cases left : write world.store with
    | error failure =>
      cases right : write other.store with
      | error failure' =>
        rw [left, right] at same
        cases same
        exact alike_pure
      | ok written =>
        rw [left, right] at same
        cases same
    | ok written =>
      cases right : write other.store with
      | error failure' =>
        rw [left, right] at same
        cases same
      | ok written' =>
        rw [left, right] at same
        obtain ⟨value, seen⟩ := Prod.ext_iff.mp (Except.ok.inj same)
        exact fun _ _ _ => ⟨congrArg Except.ok value,
          puts world other _ _ _ _ related left right seen⟩
  · exact alike_throw

theorem alike_pure? {found : Except Failure β} :
    Alike R (Run.pure? found : Run σ α β).run (Run.pure? found : Run τ α β).run := by
  cases found <;> exact alike_pure

end Alike

end Herald
