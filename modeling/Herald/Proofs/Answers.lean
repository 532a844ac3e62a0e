import Herald.Proofs.Report

/-! # What senders make of replies

A sender comes to an outcome exactly if its provider answers something that can be read, and lets a
transport failure out if there is nothing to ask with or no answer comes. The gateway's line can
always be read. The e-mail service answers with whatever it likes, and what its answer holds is held
to the form of an outcome: an answer that is no record, an id or an error that is no text, or a cost
that is an infinity breaks out of the sender as a failure of another kind.
-/

namespace Herald

variable {α β : Type}

namespace Checked

/-- A form is valid exactly if each of its parts is. -/
theorem exists_seq_valid_iff {f : Checked (α → β)} {checked : Checked α} :
    (∃ value, f <*> checked = .valid value) ↔
      (∃ g, f = .valid g) ∧ ∃ found, checked = .valid found := by
  constructor
  · rintro ⟨value, valid⟩
    obtain ⟨g, found, function, argument, -⟩ := seq_valid valid
    exact ⟨⟨g, function⟩, found, argument⟩
  · rintro ⟨⟨g, rfl⟩, found, rfl⟩
    exact ⟨g found, rfl⟩

theorem exists_map_valid_iff {f : α → β} {checked : Checked α} :
    (∃ value, f <$> checked = .valid value) ↔ ∃ found, checked = .valid found := by
  constructor
  · rintro ⟨value, valid⟩
    obtain ⟨found, eq, -⟩ := map_valid valid
    exact ⟨found, eq⟩
  · rintro ⟨found, rfl⟩
    exact ⟨f found, rfl⟩

theorem exists_under_valid_iff {name : String} {checked : Checked α} :
    (∃ value, checked.under name = .valid value) ↔ ∃ value, checked = .valid value := by
  cases checked with
  | valid found => exact Iff.rfl
  | refused problems => exact ⟨nofun, nofun⟩

end Checked

/-! ## Fields of an outcome -/

namespace Form

/-- A field that may be missing can be read exactly if it is null or its value can. -/
theorem exists_nullable_valid_iff {fields : Fields} {name : String} {read : Value → Checked α} :
    (∃ found, nullable fields name read = .valid found) ↔
      fields.getOrNull name = .null ∨ ∃ found, read (fields.getOrNull name) = .valid found := by
  unfold nullable Fields.getOrNull
  split
  · rename_i missing
    simp [missing]
  · rename_i null
    simp [null]
  · rename_i value present found
    have some : value ≠ .null := present
    rw [Checked.exists_under_valid_iff, found, Option.getD_some, or_iff_right some]
    exact Checked.exists_map_valid_iff

theorem exists_text_valid_iff {value : Value} :
    (∃ found, text value = .valid found) ↔ ∃ content, value = .text content := by
  constructor
  · rintro ⟨found, valid⟩
    cases value <;> first | exact ⟨_, rfl⟩ | cases valid
  · rintro ⟨content, rfl⟩
    exact ⟨content, rfl⟩

theorem exists_decimal_valid_iff {number : Decimal} :
    (∃ found, decimal (.decimal number) = .valid found) ↔ number.isFinite = true := by
  change (∃ found, (if number.isFinite then .valid number else Checked.complain .notFinite) =
    .valid found) ↔ _
  split
  · rename_i finite
    exact ⟨fun _ => finite, fun _ => ⟨number, rfl⟩⟩
  · rename_i infinite
    exact ⟨nofun, fun finite => absurd finite infinite⟩

end Form

namespace Value

/-- A value that a text may be which is not needed. -/
def IsTextOrNull (value : Value) : Prop := value = .null ∨ ∃ content, value = .text content

theorem IsTextOrNull.not_isTooDeep {value : Value} (plain : value.IsTextOrNull) :
    ¬ value.isTooDeep = true := by
  rcases plain with rfl | ⟨content, rfl⟩ <;> exact Bool.false_ne_true

/-- A value that a service may report as the cost of a message: nothing, a text or value that writes
no number at all, or a finite number. -/
def IsPrice (value : Value) : Prop :=
  value = .null ∨ (¬ value.isTooDeep = true ∧
    ∀ number, Decimal.ofText? value.inSentence = some number → number.isFinite = true)

end Value

/-! ## The answer of the e-mail service -/

/-- What an answer that reports an error names as its reason can be kept: a text, which may be the
text of the answer itself if its record names none. -/
def Answer.NamesReason (answer : Answer) (payload : Fields) : Prop :=
  if (payload.getOrNull "message").isTruthy then ∃ content, payload.getOrNull "message" = .text content
  else if (payload.getOrNull "error").isTruthy then
    ∃ content, payload.getOrNull "error" = .text content
  else ∃ content, answer.text = some content

/-- An answer of the e-mail service that can be read: a record, or nothing, with an id and a cost if
the message was taken and with a reason if it was not. -/
def Answer.IsReadable (answer : Answer) : Prop :=
  ∃ payload, answer.payload.getD (.record []) = .record payload ∧
    if answer.isOk then
      (Fields.getOrNull payload "id").IsTextOrNull ∧ (Fields.getOrNull payload "cost").IsPrice
    else answer.NamesReason payload

namespace Provider

theorem written_ok_iff {part found : Value} :
    written part = .ok found ↔ ¬ part.isTooDeep = true ∧ found = part := by
  unfold written
  split
  · rename_i deep
    exact ⟨nofun, fun plain => absurd deep plain.1⟩
  · rename_i plain
    exact ⟨fun ok => ⟨plain, (Except.ok.inj ok).symm⟩, fun found => by rw [found.2]⟩

theorem exists_checkedOutcome_iff {fields : Fields} :
    (∃ outcome, checkedOutcome fields = .ok outcome) ↔
      ∃ outcome, Outcome.ofForm fields = .valid outcome := by
  unfold checkedOutcome
  split
  · rename_i outcome valid
    exact ⟨fun _ => ⟨outcome, valid⟩, fun _ => ⟨outcome, rfl⟩⟩
  · rename_i refused
    exact ⟨nofun, fun ⟨outcome, valid⟩ => by rw [refused] at valid; cases valid⟩

/-- What is put together of an answer is an outcome exactly if its parts fit. -/
theorem exists_ofForm_iff {fields : Fields} {flag : Bool}
    (success : fields.get? "success" = some (.bool flag)) :
    (∃ outcome, Outcome.ofForm fields = .valid outcome) ↔
      (fields.getOrNull "provider_id").IsTextOrNull ∧
      (fields.getOrNull "cost" = .null ∨
        ∃ found, Form.decimal (fields.getOrNull "cost") = .valid found) ∧
      (fields.getOrNull "error_message").IsTextOrNull ∧
      (fields.getOrNull "error_code").IsTextOrNull := by
  have required : ∃ found, Form.required fields "success" Form.boolean = .valid found :=
    ⟨flag, by rw [Form.required, success]; rfl⟩
  unfold Outcome.ofForm
  simp only [Checked.exists_seq_valid_iff, Checked.exists_map_valid_iff,
    Form.exists_nullable_valid_iff, Form.exists_text_valid_iff, required, true_and, and_assoc,
    Value.IsTextOrNull]

/-- The outcome that is put together of an answer says what it was told about success. -/
theorem success_of_ofForm {fields : Fields} {flag : Bool} {outcome : Outcome}
    (success : fields.get? "success" = some (.bool flag))
    (valid : Outcome.ofForm fields = .valid outcome) : outcome.success = flag := by
  obtain ⟨withCode, code, codes, _, rfl⟩ := Checked.seq_valid valid
  obtain ⟨withMessage, message, messages, _, rfl⟩ := Checked.seq_valid codes
  obtain ⟨withCost, cost, costs, _, rfl⟩ := Checked.seq_valid messages
  obtain ⟨withId, id, ids, _, rfl⟩ := Checked.seq_valid costs
  obtain ⟨told, required, rfl⟩ := Checked.map_valid ids
  rw [Form.required, success] at required
  exact (Checked.valid.inj required).symm

theorem success_of_checkedOutcome {fields : Fields} {flag : Bool} {outcome : Outcome}
    (success : fields.get? "success" = some (.bool flag))
    (ok : checkedOutcome fields = .ok outcome) : outcome.success = flag := by
  unfold checkedOutcome at ok
  split at ok
  · rename_i valid
    exact success_of_ofForm success (Except.ok.inj ok ▸ valid)
  · cases ok

theorem reportedCost_eq {payload : Fields} (plain : ¬ (payload.getOrNull "cost").isTooDeep = true)
    (named : payload.getOrNull "cost" ≠ .null) :
    reportedCost payload = .ok (match Decimal.ofText? (payload.getOrNull "cost").inSentence with
      | some number => .decimal number
      | none => .null) := by
  unfold reportedCost
  rw [written_ok_iff.mpr ⟨plain, rfl⟩]
  generalize payload.getOrNull "cost" = value at named
  dsimp only [bind, Except.bind]
  split
  · exact absurd rfl named
  · cases Decimal.ofText? value.inSentence <;> rfl

/-- The cost of an answer can be reported exactly if it is a price. -/
theorem exists_reportedCost_iff {payload : Fields} :
    (∃ cost, reportedCost payload = .ok cost ∧
      (cost = .null ∨ ∃ found, Form.decimal cost = .valid found)) ↔
      (payload.getOrNull "cost").IsPrice := by
  by_cases named : payload.getOrNull "cost" = .null
  · refine iff_of_true ⟨.null, ?_, .inl rfl⟩ (.inl named)
    rw [reportedCost, named]
    rfl
  rw [Value.IsPrice, or_iff_right named]
  by_cases deep : (payload.getOrNull "cost").isTooDeep = true
  · refine iff_of_false ?_ fun price => price.1 deep
    rintro ⟨cost, reported, -⟩
    obtain ⟨part, written, -⟩ := ok_of_bind reported
    exact (written_ok_iff.mp written).1 deep
  rw [and_iff_right deep, reportedCost_eq deep named]
  cases Decimal.ofText? (payload.getOrNull "cost").inSentence with
  | none => exact iff_of_true ⟨.null, rfl, .inl rfl⟩ nofun
  | some number =>
    constructor
    · rintro ⟨_, ⟨⟩, null | valid⟩
      · cases null
      · rintro _ ⟨⟩
        exact Form.exists_decimal_valid_iff.mp valid
    · intro finite
      exact ⟨_, rfl, .inr (Form.exists_decimal_valid_iff.mpr (finite number rfl))⟩

/-- A reason can be reported and kept exactly if the answer names one that can be kept. -/
theorem exists_reportedError_iff {payload : Fields} {answer : Answer} :
    (∃ error, reportedError payload answer.text = .ok error ∧ error.IsTextOrNull) ↔
      answer.NamesReason payload := by
  unfold reportedError Answer.NamesReason
  dsimp only
  -- What counts as a reason is not null, so it has to be a text.
  have truthy : ∀ value : Value, value.isTruthy = true →
      ((∃ error, Except.ok (ε := Failure) value = .ok error ∧ error.IsTextOrNull) ↔
        ∃ content, value = .text content) := by
    intro value counts
    constructor
    · rintro ⟨_, ⟨⟩, rfl | text⟩
      · cases counts
      · exact text
    · exact fun text => ⟨value, rfl, .inr text⟩
  split
  · rename_i message
    exact truthy _ message
  split
  · rename_i error
    exact truthy _ error
  cases answer.text with
  | some content => exact iff_of_true ⟨_, rfl, .inr ⟨_, rfl⟩⟩ ⟨content, rfl⟩
  | none => exact ⟨nofun, nofun⟩

/-- An answer of the e-mail service comes to an outcome exactly if it can be read. -/
theorem exists_emailOutcome_iff {answer : Answer} :
    (∃ outcome, emailOutcome answer = .ok outcome) ↔ answer.IsReadable := by
  unfold emailOutcome Answer.IsReadable
  cases answer.payload.getD (.record []) with
  | record payload =>
    simp only [Value.record.injEq, exists_eq_left']
    split
    · constructor
      · rintro ⟨outcome, ok⟩
        obtain ⟨cost, reported, kept⟩ := ok_of_bind ok
        obtain ⟨id, written, checked⟩ := ok_of_bind kept
        obtain ⟨-, rfl⟩ := written_ok_iff.mp written
        obtain ⟨text, price, -⟩ :=
          (exists_ofForm_iff rfl).mp (exists_checkedOutcome_iff.mp ⟨outcome, checked⟩)
        exact ⟨text, exists_reportedCost_iff.mp ⟨cost, reported, price⟩⟩
      · rintro ⟨text, price⟩
        obtain ⟨cost, reported, fine⟩ := exists_reportedCost_iff.mpr price
        refine exists_ok_bind_of reported ?_
        refine exists_ok_bind_of (written_ok_iff.mpr ⟨text.not_isTooDeep, rfl⟩) ?_
        exact exists_checkedOutcome_iff.mpr
          ((exists_ofForm_iff rfl).mpr ⟨text, fine, .inl rfl, .inl rfl⟩)
    · constructor
      · rintro ⟨outcome, ok⟩
        obtain ⟨error, reported, kept⟩ := ok_of_bind ok
        obtain ⟨reason, written, checked⟩ := ok_of_bind kept
        obtain ⟨-, rfl⟩ := written_ok_iff.mp written
        obtain ⟨-, -, text, -⟩ :=
          (exists_ofForm_iff rfl).mp (exists_checkedOutcome_iff.mp ⟨outcome, checked⟩)
        exact exists_reportedError_iff.mp ⟨_, reported, text⟩
      · intro named
        obtain ⟨error, reported, text⟩ := exists_reportedError_iff.mpr named
        refine exists_ok_bind_of reported ?_
        refine exists_ok_bind_of (written_ok_iff.mpr ⟨text.not_isTooDeep, rfl⟩) ?_
        exact exists_checkedOutcome_iff.mpr
          ((exists_ofForm_iff rfl).mpr ⟨.inl rfl, .inl rfl, text, .inr ⟨_, rfl⟩⟩)
  | _ => exact ⟨nofun, nofun⟩

/-- An outcome of the e-mail service is a success exactly if the status of the answer is no
error. -/
theorem success_emailOutcome {answer : Answer} {outcome : Outcome}
    (ok : emailOutcome answer = .ok outcome) : outcome.success = answer.isOk := by
  unfold emailOutcome at ok
  split at ok
  · split at ok
    · rename_i fine
      obtain ⟨_, _, ok⟩ := ok_of_bind ok
      obtain ⟨_, _, ok⟩ := ok_of_bind ok
      exact (success_of_checkedOutcome rfl ok).trans fine.symm
    · rename_i bad
      obtain ⟨_, _, ok⟩ := ok_of_bind ok
      obtain ⟨_, _, ok⟩ := ok_of_bind ok
      exact (success_of_checkedOutcome rfl ok).trans (Bool.eq_false_iff.mpr bad).symm
  · cases ok

/-! ## Senders -/

/-- Whether a sender makes an outcome of an answer: the gateway's sender always does. -/
def Reads : Provider → Answer → Prop
  | .emailService _ _, answer => answer.IsReadable
  | _, _ => True

/-- Whether an answer says that the message was taken: its status is no error, and the gateway's
line starts with its word for it. -/
def Takes : Provider → Answer → Prop
  | .emailService _ _, answer => answer.isOk = true
  | _, answer => answer.isOk = true ∧
      ['O', 'K'] <+: (Text.trimmed (answer.text.getD "")).toList

/-- A message is put to the provider, and this is what comes back. -/
def Gets (provider : Provider) (message : Outgoing) (reply : Request → Reply) (came : Reply) : Prop :=
  ∃ request, provider.request message = .ok request ∧ reply request = came

variable {provider : Provider}

theorem exists_outcome_iff {answer : Answer} :
    (∃ outcome, provider.outcome (.answered answer) = .ok outcome) ↔ provider.Reads answer := by
  cases provider with
  | emailService url key => exact exists_emailOutcome_iff
  | _ => exact iff_of_true ⟨_, rfl⟩ trivial

theorem success_smsOutcome {answer : Answer} :
    (smsOutcome answer).success = true ↔ answer.isOk = true ∧
      ['O', 'K'] <+: (Text.trimmed (answer.text.getD "")).toList := by
  rw [← List.isPrefixOf_iff_prefix, ← Bool.and_eq_true, smsOutcome]
  dsimp only
  split
  · rename_i taken
    exact iff_of_true rfl taken
  · rename_i refused
    exact iff_of_false Bool.false_ne_true refused

theorem success_outcome {answer : Answer} {outcome : Outcome}
    (read : provider.outcome (.answered answer) = .ok outcome) :
    outcome.success = true ↔ provider.Takes answer := by
  cases provider with
  | emailService url key => rw [success_emailOutcome read]; exact Iff.rfl
  | smsGateway url user password =>
    cases read
    exact success_smsOutcome
  | unserved =>
    cases read
    exact success_smsOutcome

/-- Everything that can go wrong is no matter of transport. -/
def BreaksOut (found : Except Failure α) : Prop :=
  ∀ failure, found = .error failure → failure.isTransport = false

theorem breaksOut_ok (value : α) : BreaksOut (.ok value) := nofun

theorem breaksOut_bind {found : Except Failure α} {next : α → Except Failure β}
    (first : BreaksOut found) (rest : ∀ value, BreaksOut (next value)) :
    BreaksOut (found >>= next) := by
  cases found with
  | error failure =>
    rintro _ ⟨⟩
    exact first failure rfl
  | ok value => exact rest value

theorem breaksOut_written (part : Value) : BreaksOut (written part) := by
  unfold written
  split
  · rintro _ ⟨⟩
    rfl
  · exact breaksOut_ok _

theorem breaksOut_checkedOutcome (fields : Fields) : BreaksOut (checkedOutcome fields) := by
  unfold checkedOutcome
  split
  · exact breaksOut_ok _
  · rintro _ ⟨⟩
    rfl

theorem breaksOut_reportedCost (payload : Fields) : BreaksOut (reportedCost payload) := by
  refine breaksOut_bind (breaksOut_written _) fun part => ?_
  split
  · exact breaksOut_ok _
  · split <;> exact breaksOut_ok _

theorem breaksOut_reportedError (payload : Fields) (text : Option String) :
    BreaksOut (reportedError payload text) := by
  unfold reportedError
  dsimp only
  split
  · exact breaksOut_ok _
  split
  · exact breaksOut_ok _
  split
  · exact breaksOut_ok _
  · rintro _ ⟨⟩
    rfl

/-- What an unreadable answer lets out of the e-mail sender is no transport failure. -/
theorem breaksOut_emailOutcome (answer : Answer) : BreaksOut (emailOutcome answer) := by
  unfold emailOutcome
  split
  · split
    · refine breaksOut_bind (breaksOut_reportedCost _) fun cost => ?_
      exact breaksOut_bind (breaksOut_written _) fun id => breaksOut_checkedOutcome _
    · refine breaksOut_bind (breaksOut_reportedError _ _) fun reason => ?_
      exact breaksOut_bind (breaksOut_written _) fun error => breaksOut_checkedOutcome _
  · rintro _ ⟨⟩
    rfl

theorem breaksOut_outcome (provider : Provider) (answer : Answer) :
    BreaksOut (provider.outcome (.answered answer)) := by
  cases provider with
  | emailService url key => exact breaksOut_emailOutcome answer
  | _ => exact breaksOut_ok _

end Provider

/-- A message to a recipient that is written out, as every recipient of a campaign is. -/
def Outgoing.to (message : Outgoing) (recipient : String) : Outgoing :=
  { message with recipient := .text recipient }

namespace Provider

/-- Under a recipient that is written out everything is reported as it is. -/
theorem reported_text (recipient : String) (result : Except Failure Outcome) :
    reported (.text recipient) result = result := by
  cases result <;> rfl

variable {provider : Provider}

/-- How a sender ends that asks its provider, or has nothing to ask it with. -/
inductive Sends (provider : Provider) (message : Outgoing) (reply : Request → Reply) :
    Except Failure Outcome → Prop
  | unserved (none : provider = .unserved) : Sends provider message reply (.error .noProvider)
  | unconfigured {channel reason : String} (served : provider ≠ .unserved)
      (unasked : ∀ came, ¬ provider.Gets message reply came) :
      Sends provider message reply (.error (.transportFailure channel reason))
  | asked {came : Reply} (served : provider ≠ .unserved) (gets : provider.Gets message reply came) :
      Sends provider message reply (provider.outcome came)

theorem Gets.unique {message : Outgoing} {reply : Request → Reply} {came other : Reply}
    (gets : provider.Gets message reply came) (again : provider.Gets message reply other) :
    came = other := by
  obtain ⟨request, ok, rfl⟩ := gets
  obtain ⟨_, same, rfl⟩ := again
  rw [Except.ok.inj (ok.symm.trans same)]

theorem deliver_sends (provider : Provider) (message : Outgoing) (recipient : String)
    (reply : Request → Reply) :
    provider.Sends (message.to recipient) reply
      (provider.deliver false (message.to recipient) reply).2 := by
  unfold deliver
  rw [if_neg Bool.false_ne_true]
  cases ok : provider.request (message.to recipient) with
  | ok request =>
    have served : provider ≠ .unserved := by
      rintro rfl
      cases ok
    change provider.Sends _ reply (reported (.text recipient) _)
    rw [reported_text]
    exact .asked served ⟨request, ok, rfl⟩
  | error failure =>
    have unasked : ∀ came, ¬ provider.Gets (message.to recipient) reply came := by
      rintro came ⟨request, asked, -⟩
      rw [ok] at asked
      cases asked
    cases provider with
    | unserved =>
      cases ok
      exact .unserved rfl
    | smsGateway | emailService =>
      unfold request at ok
      dsimp only at ok
      split at ok <;> cases ok
      exact .unconfigured nofun unasked

/-- An e-mail. -/
def sampleMail : Outgoing :=
  ⟨.null, .text "Hi", .text "news@example.com", false, .null, .null⟩

/-- An answer that reports an error as a list, where a record is expected. -/
def sampleListedAnswer : Answer :=
  ⟨500, some "[\"overloaded\"]", some (.list [.text "overloaded"])⟩

end Provider

end Herald
