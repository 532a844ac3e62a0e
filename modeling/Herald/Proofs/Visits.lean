import Mathlib.Data.List.Nodup
import Herald.Proofs.Log
import Herald.Proofs.Passing
import Herald.Proofs.Table

/-! # What the visit of a target comes to

`Serves` follows the messages to one target and the rows that they leave in the log: a row for each
channel in turn, up to the first failure. `Visits` does so for a whole visit. Both are free of
worlds, so that what rows a target can get, and how they are counted, is settled without one.
-/

namespace Herald.Pass

variable {σ α : Type} [Amount α]

/-- The messages to a target on some channels: what the pass has counted and whether any message has
gone out before them, the rows that they leave, and what they come to. -/
inductive Serves (campaign : Campaign α) (target : TargetRecord) :
    List Channel → Tally → Bool → List (Message α) → Tally → Served → Prop
  | done (tally : Tally) (delivered : Bool) :
      Serves campaign target [] tally delivered [] tally (.fully delivered)
  | unpaid (channel : Channel) (rest : List Channel) (tally : Tally) (delivered : Bool) :
      Serves campaign target (channel :: rest) tally delivered [] tally (.outOfBalance delivered)
  | aborted (channel : Channel) (rest : List Channel) (tally : Tally) (delivered : Bool)
      (failure : Failure) :
      Serves campaign target (channel :: rest) tally delivered [] tally (.aborted failure)
  | uncounted {channel : Channel} {tally : Tally} {sent : Sent} {row : Message α}
      {failure : Failure} (rest : List Channel) (delivered : Bool)
      (records : row.Records campaign target channel sent)
      (refused : tally.record channel sent = .error failure) :
      Serves campaign target (channel :: rest) tally delivered [row] tally (.aborted failure)
  | sent {channel : Channel} {rest : List Channel} {tally counted total : Tally}
      {delivered : Bool} {sent : Sent} {row : Message α} {rows : List (Message α)} {served : Served}
      (records : row.Records campaign target channel sent)
      (counts : tally.record channel sent = .ok counted)
      (others : Serves campaign target rest counted (sent.isSuccess || delivered) rows total
        served) :
      Serves campaign target (channel :: rest) tally delivered (row :: rows) total served

/-- An engine whose providers leave the log alone. -/
def KeepsLog (engine : Engine σ α) : Prop :=
  ∀ request, Moves (Agree fun world : World σ α => world.store.messages)
    (engine.exchange request).run

theorem serve_leads {engine : Engine σ α} (asks : KeepsLog engine) (campaign : Campaign α)
    (isTest : Bool) (target : TargetRecord) (channels : List Channel) (tally : Tally)
    (delivered : Bool) (world : World σ α) :
    Leads (serve engine campaign isTest target channels tally delivered) world fun result after =>
      ∃ rows, Serves campaign target channels tally delivered rows result.1 result.2 ∧
        after.store.messages = world.store.messages ++ rows := by
  induction channels generalizing tally delivered world with
  | nil => exact ⟨[], .done tally delivered, (List.append_nil _).symm⟩
  | cons channel rest ih =>
    rw [serve, leads_bind]
    refine Leads.mono (Send.message_ends asks campaign isTest target channel world) ?_
    intro result after logs
    cases result with
    | error failure =>
      have same : after.store.messages = world.store.messages ++ [] := by
        rw [List.append_nil]
        exact logs
      cases failure
      case insufficientBalance => exact ⟨[], .unpaid channel rest tally delivered, same⟩
      all_goals exact ⟨[], .aborted channel rest tally delivered _, same⟩
    | ok sent =>
      obtain ⟨row, records, logged⟩ := logs
      dsimp only
      cases counts : tally.record channel sent with
      | error failure => exact ⟨[row], .uncounted rest delivered records counts, logged⟩
      | ok counted =>
        refine (ih counted (sent.isSuccess || delivered) after).mono ?_
        rintro result last ⟨rows, others, more⟩
        refine ⟨row :: rows, .sent records counts others, ?_⟩
        rw [more, logged, List.append_assoc, List.singleton_append]

namespace Serves

variable {campaign : Campaign α} {target : TargetRecord} {channels : List Channel}
  {tally total : Tally} {delivered : Bool} {rows : List (Message α)} {served : Served}

/-- The rows are about the target, on the first channels in turn. -/
theorem rows_about (serves : Serves campaign target channels tally delivered rows total served) :
    (rows.map Message.channel <+: channels) ∧ ∀ row ∈ rows,
      row.campaign = campaign.id ∧ row.target = target.kind.name ∧ row.targetId = target.id := by
  induction serves with
  | done => exact ⟨List.prefix_refl _, fun _ member => by cases member⟩
  | unpaid => exact ⟨List.nil_prefix, fun _ member => by cases member⟩
  | aborted => exact ⟨List.nil_prefix, fun _ member => by cases member⟩
  | uncounted rest delivered records =>
    refine ⟨?_, fun row member => ?_⟩
    · rw [List.map_singleton, records.channel_eq]
      exact List.prefix_append _ rest
    · rw [List.mem_singleton.mp member]
      exact ⟨records.campaign_eq, records.target_eq, records.targetId_eq⟩
  | sent records counts others ih =>
    refine ⟨?_, fun row member => ?_⟩
    · rw [List.map_cons, records.channel_eq]
      exact (List.prefix_cons_inj _).mpr ih.1
    · rcases List.mem_cons.mp member with rfl | member
      · exact ⟨records.campaign_eq, records.target_eq, records.targetId_eq⟩
      · exact ih.2 row member

/-- The campaign's tenant pays for the rows. -/
theorem tenant_eq (serves : Serves campaign target channels tally delivered rows total served) :
    ∀ row ∈ rows, row.tenant = campaign.tenant := by
  induction serves with
  | done => exact List.forall_mem_nil _
  | unpaid => exact List.forall_mem_nil _
  | aborted => exact List.forall_mem_nil _
  | uncounted rest delivered records => exact List.forall_mem_singleton.mpr records.tenant_eq
  | sent records counts others ih => exact List.forall_mem_cons.mpr ⟨records.tenant_eq, ih⟩

/-- A target that is served fully has a row on each channel, and one that is cut off by the balance
has rows on the channels before the one that is not paid for. -/
theorem ends (serves : Serves campaign target channels tally delivered rows total served) :
    match served with
    | .fully got => rows.map Message.channel = channels ∧
        got = (delivered || rows.any fun row => row.status.isSuccess)
    | .outOfBalance got => (∃ channel rest, channels = rows.map Message.channel ++ channel :: rest) ∧
        got = (delivered || rows.any fun row => row.status.isSuccess)
    | .aborted _ => True := by
  induction serves with
  | done => exact ⟨rfl, (Bool.or_false _).symm⟩
  | unpaid channel rest => exact ⟨⟨channel, rest, rfl⟩, (Bool.or_false _).symm⟩
  | aborted => exact trivial
  | uncounted => exact trivial
  | @sent channel rest tally counted total delivered sent row rows served records counts others ih =>
    have success : row.status.isSuccess = sent.isSuccess := by
      rw [records.status_eq, Sent.isSuccess_status]
    cases served with
    | fully got =>
      obtain ⟨all, got⟩ := ih
      refine ⟨by rw [List.map_cons, records.channel_eq, all], ?_⟩
      rw [got, List.any_cons, success, Bool.or_comm sent.isSuccess, Bool.or_assoc]
    | outOfBalance got =>
      obtain ⟨⟨unpaid, left, all⟩, got⟩ := ih
      refine ⟨⟨unpaid, left, by rw [List.map_cons, records.channel_eq, all, List.cons_append]⟩, ?_⟩
      rw [got, List.any_cons, success, Bool.or_comm sent.isSuccess, Bool.or_assoc]
    | aborted failure => exact trivial

end Serves

/-! ## One visit -/

/-- Whether the target has got a message, as far as the cooldown ledger is told. -/
def Served.delivered : Served → Bool
  | .fully delivered => delivered
  | .outOfBalance delivered => delivered
  | .aborted _ => false

/-- How a pass goes on behind the messages to a target. -/
inductive GoesOn (progress : Progress) : Served → Visit Progress → Prop
  | next (delivered : Bool) : GoesOn progress (.fully delivered) (.next progress)
  | pause (delivered : Bool) : GoesOn progress (.outOfBalance delivered)
      (.stop { progress with stopped := some .outOfBalance })
  | giveUp (served : Served) (failure : Failure) : GoesOn progress served (.giveUp progress failure)

/-- The visit of a target: the rows that it leaves, whether the target has got a message, and what
the pass makes of it. -/
inductive Visits (campaign : Campaign α) (excluded : List Int) (target : TargetRecord)
    (progress : Progress) : List (Message α) → Bool → Visit Progress → Prop
  | cancelled : Visits campaign excluded target progress [] false
      (.stop { progress with stopped := some .cancelled })
  | unread (failure : Failure) : Visits campaign excluded target progress [] false
      (.giveUp progress failure)
  | skipped (excludes : excluded.contains target.id = true) :
      Visits campaign excluded target progress [] false
        (.next { progress with skipped := progress.skipped + 1 })
  | unreachable (admits : excluded.contains target.id = false)
      (none : channelsFor campaign.reach target = []) :
      Visits campaign excluded target progress [] false (.next progress)
  | served {rows : List (Message α)} {tally : Tally} {served : Served} {visit : Visit Progress}
      (admits : excluded.contains target.id = false)
      (serves : Serves campaign target (channelsFor campaign.reach target) progress.tally false
        rows tally served)
      (goesOn : GoesOn { progress with eligible := progress.eligible + 1, tally } served visit) :
      Visits campaign excluded target progress rows served.delivered visit

omit [Amount α] in
theorem channelsFor_nodup (reach : Reach) (target : TargetRecord) :
    (channelsFor reach target).Nodup := by
  unfold channelsFor
  split <;> split <;> decide

/-- The rows of a visit are about its target, which is not left out, each on a channel of its
own. -/
theorem Visits.rows_about {campaign : Campaign α} {excluded : List Int} {target : TargetRecord}
    {progress : Progress} {rows : List (Message α)} {delivered : Bool} {visit : Visit Progress}
    (visits : Visits campaign excluded target progress rows delivered visit) :
    (rows.map Message.channel).Nodup ∧ ∀ row ∈ rows,
      row.campaign = campaign.id ∧ row.target = target.kind.name ∧ row.targetId = target.id ∧
        excluded.contains target.id = false := by
  cases visits with
  | served admits serves goesOn =>
    obtain ⟨channels, about⟩ := serves.rows_about
    refine ⟨channels.sublist.nodup (channelsFor_nodup _ _), fun row member => ?_⟩
    obtain ⟨campaign, kind, id⟩ := about row member
    exact ⟨campaign, kind, id, admits⟩
  | _ => exact ⟨List.nodup_nil, fun row member => by cases member⟩

theorem Visits.tenant_eq {campaign : Campaign α} {excluded : List Int} {target : TargetRecord}
    {progress : Progress} {rows : List (Message α)} {delivered : Bool} {visit : Visit Progress}
    (visits : Visits campaign excluded target progress rows delivered visit) :
    ∀ row ∈ rows, row.tenant = campaign.tenant := by
  cases visits with
  | served admits serves goesOn => exact serves.tenant_eq
  | _ => exact List.forall_mem_nil _

/-- What a visit leaves of the cooldown ledger: it records the target at most if it has got a
message. -/
def Cools (campaign : Campaign α) (target : TargetRecord) (delivered : Bool)
    (before after : Store α) : Prop :=
  after.cooldowns = before.cooldowns ∨
    delivered = true ∧ ∃ now, after.cooldowns =
      (CooldownLedger.recordIn campaign.id campaign.target target.id campaign.tenant now
        before).cooldowns

/-- An engine whose providers leave log and cooldowns alone. -/
structure KeepsLedgers (engine : Engine σ α) : Prop where
  log : KeepsLog engine
  cooldowns : ∀ request, Moves (Agree fun world : World σ α => world.store.cooldowns)
    (engine.exchange request).run

omit [Amount α] in
theorem recordIf_ends (delivered : Bool) (campaign : Campaign α) (target : TargetRecord)
    (world : World σ α) :
    Ends (recordIf delivered campaign target) world fun _ after =>
      after.store.messages = world.store.messages ∧
        Cools campaign target delivered world.store after.store := by
  cases delivered with
  | false => exact ⟨rfl, .inl rfl⟩
  | true =>
    change Ends (CooldownLedger.record campaign.id campaign.target target.id campaign.tenant) world _
    refine Leads.mono (CooldownLedger.record_ends campaign.id target.id campaign.target
      campaign.tenant world) ?_
    rintro (failure | value) after recorded
    · cases recorded
      exact ⟨rfl, .inl rfl⟩
    · cases recorded
      exact ⟨CooldownLedger.recordIn_messages _ _ _ _ _ _, .inr ⟨rfl, world.now, rfl⟩⟩

omit [Amount α] in
theorem Cools.from {campaign : Campaign α} {target : TargetRecord} {delivered : Bool}
    {before middle after : Store α} (cools : Cools campaign target delivered middle after)
    (same : middle.cooldowns = before.cooldowns) : Cools campaign target delivered before after := by
  rcases cools with still | ⟨got, now, recorded⟩
  · exact .inl (still.trans same)
  · refine .inr ⟨got, now, recorded.trans ?_⟩
    simp only [CooldownLedger.recordIn, same]
    split <;> rfl

omit [Amount α] in
theorem afterTarget_leads (campaign : Campaign α) (target : TargetRecord) (progress : Progress)
    (served : Served) (world : World σ α) :
    Leads (afterTarget campaign target progress served) world fun visit after =>
      GoesOn progress served visit ∧ after.store.messages = world.store.messages ∧
        Cools campaign target served.delivered world.store after.store := by
  cases served with
  | aborted failure => exact ⟨.giveUp _ failure, rfl, .inl rfl⟩
  | fully delivered =>
    rw [afterTarget, leads_bind]
    refine Leads.mono (recordIf_ends delivered campaign target world) ?_
    rintro (failure | value) after kept
    · exact ⟨.giveUp _ failure, kept⟩
    · exact ⟨.next delivered, kept⟩
  | outOfBalance delivered =>
    rw [afterTarget, leads_bind]
    refine Leads.mono (recordIf_ends delivered campaign target world) ?_
    rintro (failure | value) after kept
    · exact ⟨.giveUp _ failure, kept⟩
    · exact ⟨.pause delivered, kept⟩

/-- The messages to a target leave the cooldowns as they are. -/
theorem serve_cooldowns {engine : Engine σ α} (asks : KeepsLedgers engine) (campaign : Campaign α)
    (isTest : Bool) (target : TargetRecord) (channels : List Channel) (tally : Tally)
    (delivered : Bool) :
    Moves (Agree fun world : World σ α => world.store.cooldowns)
      (serve engine campaign isTest target channels tally delivered) :=
  serve_moves (Send.message_moves asks.cooldowns (fun _ _ => rfl) (fun _ _ => rfl) campaign
    isTest target) channels tally delivered

theorem visit_leads {engine : Engine σ α} (asks : KeepsLedgers engine) (campaign : Campaign α)
    (isTest : Bool) (excluded : List Int) (progress : Progress) (target : TargetRecord)
    (world : World σ α) :
    Leads (visit engine campaign isTest excluded progress target) world fun visited after =>
      ∃ rows delivered, Visits campaign excluded target progress rows delivered visited ∧
        after.store.messages = world.store.messages ++ rows ∧
          Cools campaign target delivered world.store after.store := by
  have nothing : world.store.messages = world.store.messages ++ [] := (List.append_nil _).symm
  rw [visit, leads_bind]
  refine leads_of_still (Lifecycle.status?_moves campaign.id) fun status => ?_
  cases status with
  | error failure => exact ⟨[], false, .unread failure, nothing, .inl rfl⟩
  | ok status =>
    dsimp only
    split
    · exact ⟨[], false, .cancelled, nothing, .inl rfl⟩
    · split
      · rename_i excludes
        exact ⟨[], false, .skipped excludes, nothing, .inl rfl⟩
      · rename_i admits
        rw [Bool.not_eq_true] at admits
        split
        · rename_i none
          exact ⟨[], false, .unreachable admits (List.isEmpty_iff.mp none), nothing, .inl rfl⟩
        · rw [leads_bind]
          refine ((serve_leads asks.log campaign isTest target _ progress.tally false world).and
            ((serve_cooldowns asks campaign isTest target _ _ _).leads world)).mono ?_
          rintro ⟨tally, served⟩ middle ⟨⟨rows, serves, logged⟩, cooldowns⟩
          refine (afterTarget_leads campaign target _ served middle).mono ?_
          rintro visit after ⟨goesOn, same, cools⟩
          exact ⟨rows, _, .served admits serves goesOn, same.trans logged, cools.from cooldowns⟩

end Herald.Pass
