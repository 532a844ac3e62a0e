import Herald.Proofs.Clock
import Herald.Proofs.Once

/-! # What the cooldown ledger holds

The ledger never goes back: a pair that it has as reached at some time stays so, or is reached
again. A visit that is not given up records its target after its last message, so behind a walk that
has not failed the ledger covers every message of the campaign that went out: it has the pair as
reached then or later, or the message is more days old than a cooldown lasts.
-/

namespace Herald

variable {σ α : Type}

/-! ## The ledger -/

namespace CooldownLedger

variable {store : Store α} {campaign targetId : Int} {target tenant : String} {now time : Moment}

theorem isActiveIn_iff : isActiveIn store campaign target targetId time = true ↔
    ∃ row ∈ store.cooldowns, isFor campaign target targetId row = true ∧
      time.micros ≤ row.sentAt.micros := by
  simp only [isActiveIn, List.any_eq_true, Bool.and_eq_true, decide_eq_true_eq]
  exact Iff.rfl

/-- A pair that has just been recorded is active. -/
theorem isActiveIn_recordIn :
    isActiveIn (recordIn campaign target targetId tenant now store) campaign target targetId now =
      true := by
  rw [isActiveIn_iff, recordIn]
  split
  · rename_i known
    obtain ⟨row, member, about⟩ := List.any_eq_true.mp known
    refine ⟨{ row with sentAt := now }, List.mem_map.mpr ⟨row, member, if_pos about⟩, about, ?_⟩
    exact Nat.le_refl _
  · refine ⟨_, List.mem_append_right _ (List.mem_singleton_self _), ?_, Nat.le_refl _⟩
    simp [isFor]

/-- A pair that is active stays so when another or the same pair is recorded later. -/
theorem isActiveIn_recordIn_of {other otherId : Int} {kind : String}
    (active : isActiveIn store campaign target targetId time = true)
    (before : time.micros ≤ now.micros) :
    isActiveIn (recordIn other kind otherId tenant now store) campaign target targetId time =
      true := by
  obtain ⟨row, member, about, held⟩ := isActiveIn_iff.mp active
  rw [isActiveIn_iff, recordIn]
  split
  · by_cases recorded : isFor other kind otherId row = true
    · exact ⟨{ row with sentAt := now }, List.mem_map.mpr ⟨row, member, if_pos recorded⟩, about,
        before⟩
    · exact ⟨row, List.mem_map.mpr ⟨row, member, if_neg recorded⟩, about, held⟩
  · exact ⟨row, List.mem_append_left _ member, about, held⟩

theorem isActiveIn_of_le {earlier : Moment}
    (active : isActiveIn store campaign target targetId time = true)
    (before : earlier.micros ≤ time.micros) :
    isActiveIn store campaign target targetId earlier = true := by
  obtain ⟨row, member, about, held⟩ := isActiveIn_iff.mp active
  exact isActiveIn_iff.mpr ⟨row, member, about, Nat.le_trans before held⟩

theorem isActiveIn_congr {other : Store α} (same : other.cooldowns = store.cooldowns) :
    isActiveIn other campaign target targetId time =
      isActiveIn store campaign target targetId time := by
  rw [isActiveIn, isActiveIn, same]

end CooldownLedger

open CooldownLedger

/-- Time goes on, and what the ledger has had as reached by then it still has. -/
structure Advances (before after : World σ α) : Prop where
  elapses : Elapses before after
  active : ∀ campaign target targetId (time : Moment), time.micros ≤ before.now.micros →
    isActiveIn before.store campaign target targetId time = true →
      isActiveIn after.store campaign target targetId time = true

theorem Advances.of_elapses {before after : World σ α} (elapses : Elapses before after)
    (same : after.store.cooldowns = before.store.cooldowns) : Advances before after :=
  ⟨elapses, fun _ _ _ _ _ active => (isActiveIn_congr same).trans active⟩

theorem Advances.of_now_eq {before after : World σ α} (now : after.now = before.now)
    (same : after.store.cooldowns = before.store.cooldowns) : Advances before after :=
  .of_elapses (Nat.le_of_eq (congrArg Moment.micros now.symm)) same

instance : IsPreorder (World σ α) Advances where
  refl _ := .of_now_eq rfl rfl
  trans before middle after first second := by
    refine ⟨IsTrans.trans _ _ _ first.elapses second.elapses, ?_⟩
    intro campaign target targetId time past active
    exact second.active _ _ _ _ (Nat.le_trans past first.elapses)
      (first.active _ _ _ _ past active)

theorem CooldownLedger.record_advances (campaign targetId : Int) (target tenant : String) :
    Moves Advances (record campaign target targetId tenant : Run σ α Unit).run := by
  refine moves_iff.mpr fun world => Leads.mono (record_ends campaign targetId target tenant world) ?_
  rintro (failure | value) after wrote
  · cases wrote
    exact refl world
  · cases wrote
    exact ⟨Nat.le_refl _, fun _ _ _ _ past active => isActiveIn_recordIn_of active past⟩

variable [Amount α]

/-- The ledger never goes back in a pass. -/
theorem OperatedEngine.respects_advances {engine : OperatedEngine σ α}
    (keepsTime : engine.toEngine.KeepsTime) : engine.toEngine.Respects Advances where
  message := Send.message_moves
    (fun request world => .of_elapses (keepsTime.exchange request world)
      (engine.exchange_moves (fun _ => rfl) request world))
    (fun _ _ => .of_now_eq rfl rfl) fun _ _ => .of_now_eq rfl rfl
  cooldown campaign kind target tenant := record_advances campaign target kind tenant
  life _ _ _ _ _ := .of_now_eq rfl rfl
  tally _ _ _ := Lifecycle.apply_moves fun _ _ _ => .of_now_eq rfl rfl
  beforeFinish world := .of_elapses (keepsTime.beforeFinish world)
    (view_of_standing (fun _ => rfl) (engine.beforeFinish_operated world).standing)
  journal _ _ := .of_now_eq rfl rfl

/-! ## Messages that are covered -/

section Covered

variable {id days : ℤ} {before after : World σ α}

omit [Amount α] in
theorem Message.reaches_iff {row : Message α} :
    row.reaches id = true ↔ row.campaign = id ∧ row.status.isSuccess = true := by
  rw [reaches, Bool.and_eq_true, beq_iff_eq]

/-- The ledger covers a message that went out: it has the target as reached then or later, or the
message is older than a cooldown. -/
def Covered (id days : ℤ) (world : World σ α) (row : Message α) : Prop :=
  ∃ time, row.sentAt = some time ∧ time.micros ≤ world.now.micros ∧
    (isActiveIn world.store id row.target row.targetId time = true ∨
      time.micros + days * dayMicros < world.now.micros)

/-- The ledger covers every message of a campaign that went out. -/
def AllCovered (id days : ℤ) (world : World σ α) : Prop :=
  ∀ row ∈ world.store.messages, row.reaches id = true → Covered id days world row

omit [Amount α] in
theorem Covered.advance {row : Message α} (covered : Covered id days before row)
    (advances : Advances before after) : Covered id days after row := by
  obtain ⟨time, sent, past, active | old⟩ := covered
  · exact ⟨time, sent, Nat.le_trans past advances.elapses,
      .inl (advances.active _ _ _ _ past active)⟩
  · refine ⟨time, sent, Nat.le_trans past advances.elapses, .inr ?_⟩
    have elapses : before.now.micros ≤ after.now.micros := advances.elapses
    omega

omit [Amount α] in
theorem AllCovered.advance (covered : AllCovered id days before) (advances : Advances before after)
    (same : after.store.messages = before.store.messages) : AllCovered id days after :=
  fun row member reaches => (covered row (same ▸ member) reaches).advance advances

end Covered

namespace Pass

variable {id days : ℤ} {campaign : Campaign α} {target : TargetRecord}

omit [Amount α] in
/-- Recording a target that has got a message covers what it has got. -/
theorem recordIf_covers {delivered : Bool} {world : World σ α} {old rows : List (Message α)}
    (own : campaign.id = id) (logged : world.store.messages = old ++ rows)
    (covered : ∀ row ∈ old, row.reaches id = true → Covered id days world row)
    (about : ∀ row ∈ rows, row.target = campaign.target ∧ row.targetId = target.id)
    (sent : ∀ row ∈ rows, row.status.isSuccess = true → delivered = true ∧
      ∃ time, row.sentAt = some time ∧ time.micros ≤ world.now.micros) :
    Ends (recordIf delivered campaign target) world fun result after =>
      ∀ value, result = .ok value → AllCovered id days after := by
  subst own
  cases delivered with
  | false =>
    rintro value - row member reaches
    rcases List.mem_append.mp (logged ▸ member) with before | added
    · exact covered row before reaches
    · exact absurd (sent row added (Message.reaches_iff.mp reaches).2).1 Bool.false_ne_true
  | true =>
    change Ends (CooldownLedger.record campaign.id campaign.target target.id campaign.tenant) world _
    refine ((record_ends campaign.id target.id campaign.target campaign.tenant world).and
      ((record_advances campaign.id target.id campaign.target campaign.tenant).leads world)).mono ?_
    rintro (failure | value) after ⟨wrote, advances⟩
    · exact nofun
    · rintro value - row member reaches
      have messages : after.store.messages = world.store.messages := by
        rw [wrote]
        exact recordIn_messages _ _ _ _ _ _
      rw [messages, logged] at member
      rcases List.mem_append.mp member with before | added
      · exact (covered row before reaches).advance advances
      · obtain ⟨kind, targetId⟩ := about row added
        obtain ⟨-, time, stamped, past⟩ := sent row added (Message.reaches_iff.mp reaches).2
        refine ⟨time, stamped, Nat.le_trans past advances.elapses, .inl ?_⟩
        rw [kind, targetId]
        cases wrote
        exact isActiveIn_of_le isActiveIn_recordIn past

/-- A target that has been served and has got a message is told of as such. -/
theorem Serves.delivered_of_success {channels : List Channel} {tally total : Tally}
    {rows : List (Message α)} {served : Served}
    (serves : Serves campaign target channels tally false rows total served)
    (going : ∀ failure, served ≠ .aborted failure) {row : Message α} (member : row ∈ rows)
    (success : row.status.isSuccess = true) : served.delivered = true := by
  have ends := serves.ends
  have got : (rows.any fun row => row.status.isSuccess) = true :=
    List.any_eq_true.mpr ⟨row, member, success⟩
  cases served with
  | fully delivered | outOfBalance delivered => exact ends.2.trans (by rw [got]; rfl)
  | aborted failure => exact absurd rfl (going failure)

omit [Amount α] in
/-- What goes on behind the messages to a target has recorded it. -/
theorem afterTarget_leaves {progress : Progress} {served : Served} {world : World σ α}
    {I : World σ α → Prop}
    (records : (∀ failure, served ≠ .aborted failure) →
      Ends (recordIf served.delivered campaign target) world fun result after =>
        ∀ value, result = .ok value → I after) :
    Leads (afterTarget campaign target progress served) world fun visited after =>
      visited.Leaves (fun _ => I) (fun _ _ => True) after := by
  cases served with
  | aborted failure => exact trivial
  | fully delivered | outOfBalance delivered =>
    rw [afterTarget, leads_bind]
    refine Leads.mono (records (by rintro _ ⟨⟩)) ?_
    rintro (failure | value) after covered
    · exact trivial
    · exact covered value rfl

variable {engine : OperatedEngine σ α} (keepsTime : engine.toEngine.KeepsTime)

include keepsTime

/-- Unless it is given up, the visit of a target keeps the messages of the campaign covered. -/
theorem visit_covers (own : campaign.id = id) (kind : campaign.target = target.kind.name)
    (isTest : Bool) (excluded : List Int) (progress : Progress) {world : World σ α}
    (covered : AllCovered id days world) :
    Leads (visit engine.toEngine campaign isTest excluded progress target) world
      fun visited after => visited.Leaves (fun _ => AllCovered id days) (fun _ _ => True) after := by
  rw [visit, leads_bind]
  refine leads_of_still (Lifecycle.status?_moves campaign.id) fun status => ?_
  cases status with
  | error failure => exact trivial
  | ok status =>
    dsimp only
    split
    · exact covered
    · split
      · exact covered
      · split
        · exact covered
        · rw [leads_bind]
          have stamps := serve_moves ((OperatedEngine.respects_stamps keepsTime).message campaign
            isTest target) (channelsFor campaign.reach target) progress.tally false
          have advances := serve_moves ((OperatedEngine.respects_advances keepsTime).message campaign
            isTest target) (channelsFor campaign.reach target) progress.tally false
          refine ((serve_leads (keepsLog engine) campaign isTest target _ progress.tally false
            world).and ((stamps.leads world).and (advances.leads world))).mono ?_
          rintro ⟨tally, served⟩ middle ⟨⟨rows, serves, logged⟩, ⟨-, added, same, stamped⟩, advances⟩
          cases List.append_cancel_left (logged.symm.trans same)
          refine afterTarget_leaves fun going => recordIf_covers own logged
            (fun row member reaches => (covered row member reaches).advance advances)
            (fun row member => ?_) fun row member success => ?_
          · obtain ⟨-, word, targetId⟩ := serves.rows_about.2 row member
            exact ⟨word.trans kind.symm, targetId⟩
          · obtain ⟨time, sent, -, past⟩ := stamped row member success
            exact ⟨serves.delivered_of_success going member success, time, sent, past⟩

/-- Behind a walk that has not failed the messages of the campaign are covered. -/
theorem walk_covers {setting : Setting α} (own : setting.campaign.id = id)
    (kind : setting.campaign.target = setting.audience.kind.name) {world : World σ α}
    (covered : AllCovered id days world) :
    Leads (setting.walk engine.toEngine) world fun walked after =>
      walked.2 = none → AllCovered id days after := by
  refine (Audience.walk_leaves (I := fun _ => AllCovered id days) (J := fun _ _ => True)
    (fun _ _ _ => trivial) ?_ covered).mono ?_
  · intro progress target middle right covered
    exact visit_covers keepsTime own (kind.trans (by rw [right])) setting.isTest setting.excluded
      progress covered
  · rintro ⟨progress, failure | failure⟩ after kept
    · exact fun _ => kept
    · exact nofun

end Pass

end Herald
