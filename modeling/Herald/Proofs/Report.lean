import Herald.Proofs.Action

/-! # What providers report

What a provider answers is read through a form, and a form takes no number that is not finite. So a
reported cost can always be stored beside what the message was charged.
-/

namespace Herald

variable {α β : Type}

namespace Checked

theorem map_valid {f : α → β} {checked : Checked α} {value : β}
    (valid : f <$> checked = .valid value) : ∃ found, checked = .valid found ∧ f found = value := by
  cases checked with
  | valid found => exact ⟨found, rfl, Checked.valid.inj valid⟩
  | refused problems => cases valid

/-- A form is valid only if each of its parts is. -/
theorem seq_valid {f : Checked (α → β)} {checked : Checked α} {value : β}
    (valid : f <*> checked = .valid value) :
    ∃ g found, f = .valid g ∧ checked = .valid found ∧ g found = value := by
  cases f with
  | valid g =>
    obtain ⟨found, eq, applied⟩ := map_valid (f := g) valid
    exact ⟨g, found, rfl, eq, applied⟩
  | refused problems => cases checked <;> cases valid

theorem under_valid {name : String} {checked : Checked α} {value : α}
    (valid : checked.under name = .valid value) : checked = .valid value := by
  cases checked with
  | valid found => exact valid
  | refused problems => cases valid

theorem andThen_valid {checked : Checked α} {next : α → Checked β} {value : β}
    (valid : checked.andThen next = .valid value) :
    ∃ found, checked = .valid found ∧ next found = .valid value := by
  cases checked with
  | valid found => exact ⟨found, rfl, valid⟩
  | refused problems => cases valid

end Checked

namespace Form

theorem decimal_finite {value : Value} {number : Decimal} (valid : decimal value = .valid number) :
    number.isFinite = true := by
  obtain ⟨found, _, kept⟩ := Checked.andThen_valid valid
  split at kept
  · rename_i finite
    exact Checked.valid.inj kept ▸ finite
  · cases kept

/-- What a field holds that may be missing has been read. -/
theorem nullable_some {fields : Fields} {name : String} {read : Value → Checked α} {found : α}
    (valid : nullable fields name read = .valid (some found)) :
    ∃ value, read value = .valid found := by
  unfold nullable at valid
  split at valid
  · cases valid
  · cases valid
  · rename_i value _ _
    obtain ⟨read, eq, same⟩ := Checked.map_valid (Checked.under_valid valid)
    exact ⟨value, eq.trans (congrArg Checked.valid (Option.some.inj same))⟩

end Form

/-- An outcome whose cost, if there is one, is a number. -/
def Outcome.IsPriced (outcome : Outcome) : Prop :=
  ∀ cost, outcome.cost = some cost → cost.isFinite = true

namespace Outcome

theorem isPriced_of_free {outcome : Outcome} (free : outcome.cost = none) : outcome.IsPriced := by
  intro cost priced
  rw [free] at priced
  cases priced

theorem isPriced_simulated : simulated.IsPriced := by
  intro cost priced
  cases priced
  rfl

theorem isPriced_ofForm {fields : Fields} {outcome : Outcome}
    (valid : ofForm fields = .valid outcome) : outcome.IsPriced := by
  obtain ⟨withCode, code, codes, _, rfl⟩ := Checked.seq_valid valid
  obtain ⟨withMessage, message, messages, _, rfl⟩ := Checked.seq_valid codes
  obtain ⟨withCost, cost, costs, read, rfl⟩ := Checked.seq_valid messages
  obtain ⟨withId, id, ids, _, rfl⟩ := Checked.seq_valid costs
  obtain ⟨success, _, rfl⟩ := Checked.map_valid ids
  intro amount priced
  subst priced
  obtain ⟨value, decimal⟩ := Form.nullable_some read
  exact Form.decimal_finite decimal

end Outcome

namespace Provider

theorem isPriced_emailOutcome {answer : Answer} {outcome : Outcome}
    (read : emailOutcome answer = .ok outcome) : outcome.IsPriced := by
  have checked : ∀ fields, checkedOutcome fields = .ok outcome → outcome.IsPriced := by
    intro fields taken
    unfold checkedOutcome at taken
    split at taken
    · rename_i valid
      exact Except.ok.inj taken ▸ Outcome.isPriced_ofForm valid
    · cases taken
  unfold emailOutcome at read
  split at read
  · split at read
    · obtain ⟨cost, _, read⟩ := ok_of_bind read
      obtain ⟨id, _, read⟩ := ok_of_bind read
      exact checked _ read
    · obtain ⟨report, _, read⟩ := ok_of_bind read
      obtain ⟨error, _, read⟩ := ok_of_bind read
      exact checked _ read
  · cases read

theorem isPriced_smsOutcome (answer : Answer) : (smsOutcome answer).IsPriced := by
  apply Outcome.isPriced_of_free
  rw [smsOutcome]
  dsimp only
  split <;> rfl

/-- A reply is read into an outcome that can be stored. -/
theorem isPriced_outcome {provider : Provider} {reply : Reply} {outcome : Outcome}
    (read : provider.outcome reply = .ok outcome) : outcome.IsPriced := by
  cases reply with
  | answered answer =>
    cases provider with
    | emailService url key => exact isPriced_emailOutcome read
    | smsGateway url user password => exact Except.ok.inj read ▸ isPriced_smsOutcome answer
    | unserved => exact Except.ok.inj read ▸ isPriced_smsOutcome answer
  | timedOut => cases read
  | unreachable reason => cases read
  | crashed message => cases read

end Provider

end Herald
