import Herald.Proofs.Calm
import Herald.Proofs.Visits

/-! # What the walk of a calm pass has covered

A walk serves its targets one after the other, each on all of its channels before the next one. When
it has gone over a target that is not left out, there is a message for each channel of the target.
Only the last target of a walk that runs out of balance may be left with the first of two messages.
-/

namespace Herald

variable {σ α : Type}

/-- A row is about a message of a campaign to a target on a channel. -/
def Message.IsAbout (row : Message α) (id : Int) (target : TargetRecord) (channel : Channel) :
    Prop :=
  row.campaign = id ∧ row.target = target.kind.name ∧ row.targetId = target.id ∧
    row.channel = channel

theorem mem_messagedIn {store : Store α} {id : Int} {word : String} {target : Int} :
    target ∈ Lifecycle.messagedIn store id word ↔ ∃ row ∈ store.messages, row.campaign = id ∧
      row.target = word ∧ row.status.isSuccess = true ∧ row.targetId = target := by
  simp only [Lifecycle.messagedIn, List.mem_map, List.mem_filter, Bool.and_eq_true, beq_iff_eq,
    and_assoc]

namespace Pass

/-- A campaign's rows of a walk that has gone over some targets: they are about these, and those
that are not left out have a row on each of their channels. -/
structure Covers (setting : Setting α) (done : List TargetRecord) (rows : List (Message α)) :
    Prop where
  within : ∀ row ∈ rows, row.targetId ∈ done.map TargetRecord.id
  all : ∀ target ∈ done, setting.excluded.contains target.id = false →
    ∀ channel ∈ channelsFor setting.campaign.reach target,
      ∃ row ∈ rows, row.IsAbout setting.campaign.id target channel

/-- Nobody has come into cooldown but those that the campaign has reached. -/
def CoolsReached (campaign : Campaign α) (before after : Store α) : Prop :=
  ∀ since, ∀ target ∈ CooldownLedger.activeIn after campaign.id campaign.target since,
    target ∈ CooldownLedger.activeIn before campaign.id campaign.target since ∨
      target ∈ Lifecycle.messagedIn after campaign.id campaign.target

theorem CoolsReached.of_ledgers {campaign : Campaign α} {before after later : Store α}
    (cools : CoolsReached campaign before after)
    (same : (later.messages, later.cooldowns) = (after.messages, after.cooldowns)) :
    CoolsReached campaign before later := by
  obtain ⟨messages, cooldowns⟩ := Prod.mk.inj same
  simpa only [CoolsReached, CooldownLedger.activeIn, Lifecycle.messagedIn, messages, cooldowns]
    using cools

theorem CoolsReached.trans {campaign : Campaign α} {first second third : Store α}
    (before : CoolsReached campaign first second) (after : CoolsReached campaign second third)
    (grows : second.messages ⊆ third.messages) : CoolsReached campaign first third := by
  intro since target active
  rcases after since target active with there | reached
  · refine (before since target there).imp_right fun member => ?_
    rw [mem_messagedIn] at member ⊢
    obtain ⟨row, member, about⟩ := member
    exact ⟨row, grows member, about⟩
  · exact .inr reached

/-- A walk that has gone over some targets. -/
structure Toured (setting : Setting α) (before : Store α) (done : List TargetRecord)
    (after : Store α) : Prop where
  cools : CoolsReached setting.campaign before after
  logged : ∃ rows, after.messages = before.messages ++ rows ∧ Covers setting done rows

/-- A walk that has been stopped at a target: there is at most a text message to this one. -/
structure Halted (setting : Setting α) (before : Store α) (all : List TargetRecord)
    (after : Store α) : Prop where
  cools : CoolsReached setting.campaign before after
  logged : ∃ done target rows added, done ++ [target] <+: all ∧ Covers setting done rows ∧
    after.messages = before.messages ++ rows ++ added ∧
      (added = [] ∨ ∃ row, added = [row] ∧ row.IsAbout setting.campaign.id target .sms)

theorem Covers.skip {setting : Setting α} {done : List TargetRecord} {rows : List (Message α)}
    {target : TargetRecord} (covers : Covers setting done rows)
    (passes : setting.excluded.contains target.id = false →
      channelsFor setting.campaign.reach target = []) : Covers setting (done ++ [target]) rows where
  within row member := by
    rw [List.map_append, List.mem_append]
    exact .inl (covers.within row member)
  all other member admits channel on := by
    rcases List.mem_append.mp member with before | last
    · exact covers.all other before admits channel on
    · rw [List.mem_singleton] at last
      subst last
      rw [passes admits] at on
      cases on

/-- A target that is served on all of its channels is covered. -/
theorem Covers.serve {setting : Setting α} {done : List TargetRecord} {rows added : List (Message α)}
    {target : TargetRecord} (covers : Covers setting done rows)
    (about : ∀ row ∈ added, row.campaign = setting.campaign.id ∧ row.target = target.kind.name ∧
      row.targetId = target.id)
    (channels : added.map Message.channel = channelsFor setting.campaign.reach target) :
    Covers setting (done ++ [target]) (rows ++ added) where
  within row member := by
    rw [List.map_append, List.mem_append]
    rcases List.mem_append.mp member with before | new
    · exact .inl (covers.within row before)
    · exact .inr (List.mem_singleton.mpr (about row new).2.2)
  all other member admits channel on := by
    rcases List.mem_append.mp member with before | last
    · obtain ⟨row, member, isAbout⟩ := covers.all other before admits channel on
      exact ⟨row, List.mem_append_left _ member, isAbout⟩
    · rw [List.mem_singleton] at last
      subst last
      rw [← channels] at on
      obtain ⟨row, member, same⟩ := List.mem_map.mp on
      obtain ⟨campaign, kind, id⟩ := about row member
      exact ⟨row, List.mem_append_right _ member, campaign, kind, id, same⟩

/-- A target that is not paid for fully has got nothing, or a text message of two messages. -/
theorem unpaid_rows {reach : Reach} {target : TargetRecord} {rows : List (Message α)}
    (unpaid : ∃ channel rest, channelsFor reach target =
      rows.map Message.channel ++ channel :: rest) :
    rows = [] ∨ ∃ row, rows = [row] ∧ row.channel = .sms := by
  obtain ⟨channel, rest, channels⟩ := unpaid
  unfold channelsFor at channels
  match rows with
  | [] => exact .inl rfl
  | [row] =>
    refine .inr ⟨row, rfl, ?_⟩
    split at channels <;> split at channels <;> simp_all
  | _ :: _ :: _ => split at channels <;> split at channels <;> simp_all

/-! ## Cooldowns -/

/-- A visit brings at most its own target into cooldown, and only if that has got a message. -/
theorem Cools.active {campaign : Campaign α} {target : TargetRecord} {delivered : Bool}
    {before after : Store α} (cools : Cools campaign target delivered before after)
    {since : Moment} {id : Int}
    (active : id ∈ CooldownLedger.activeIn after campaign.id campaign.target since) :
    id ∈ CooldownLedger.activeIn before campaign.id campaign.target since ∨
      delivered = true ∧ id = target.id := by
  simp only [CooldownLedger.activeIn, List.mem_map, List.mem_filter] at active ⊢
  obtain ⟨row, ⟨member, counts⟩, rfl⟩ := active
  rcases cools with same | ⟨got, now, recorded⟩
  · exact .inl ⟨row, ⟨same ▸ member, counts⟩, rfl⟩
  · rw [recorded, CooldownLedger.recordIn] at member
    split at member
    · obtain ⟨old, there, changed⟩ := List.mem_map.mp member
      split at changed
      · rename_i isFor
        simp only [CooldownLedger.isFor, Bool.and_eq_true, beq_iff_eq] at isFor
        subst changed
        exact .inr ⟨got, isFor.2⟩
      · subst changed
        exact .inl ⟨old, ⟨there, counts⟩, rfl⟩
    · rcases List.mem_append.mp member with there | new
      · exact .inl ⟨row, ⟨there, counts⟩, rfl⟩
      · rw [List.mem_singleton.mp new]
        exact .inr ⟨got, rfl⟩

/-- A target counts as one that has got a message only if one of its messages has gone out. -/
theorem Visits.delivered {campaign : Campaign α} [Amount α] {excluded : List Int}
    {target : TargetRecord} {progress : Progress} {rows : List (Message α)} {got : Bool}
    {visit : Visit Progress} (visits : Visits campaign excluded target progress rows got visit)
    (delivered : got = true) : ∃ row ∈ rows, row.status.isSuccess = true := by
  cases visits with
  | @served _ _ served _ _ serves _ =>
    have ends := serves.ends
    cases served with
    | fully got =>
      rw [Bool.false_or] at ends
      exact List.any_eq_true.mp (ends.2.symm.trans delivered)
    | outOfBalance got =>
      rw [Bool.false_or] at ends
      exact List.any_eq_true.mp (ends.2.symm.trans delivered)
    | aborted failure => exact absurd delivered Bool.false_ne_true
  | _ => exact absurd delivered Bool.false_ne_true

theorem CoolsReached.visit [Amount α] {campaign : Campaign α} {excluded : List Int}
    {target : TargetRecord} {progress : Progress} {rows : List (Message α)} {delivered : Bool}
    {visit : Visit Progress} {before middle after : Store α}
    (reached : CoolsReached campaign before middle)
    (visits : Visits campaign excluded target progress rows delivered visit)
    (word : target.kind.name = campaign.target) (logged : after.messages = middle.messages ++ rows)
    (cools : Cools campaign target delivered middle after) : CoolsReached campaign before after := by
  intro since id active
  rcases cools.active active with old | ⟨got, rfl⟩
  · refine (reached since id old).imp_right fun member => ?_
    rw [mem_messagedIn] at member ⊢
    obtain ⟨row, member, about⟩ := member
    exact ⟨row, logged ▸ List.mem_append_left _ member, about⟩
  · obtain ⟨row, member, success⟩ := visits.delivered got
    obtain ⟨campaign, kind, id, _⟩ := visits.rows_about.2 row member
    exact .inr (mem_messagedIn.mpr
      ⟨row, logged ▸ List.mem_append_right _ member, campaign, kind.trans word, success, id⟩)

/-! ## The walk -/

variable [Amount α] {engine : Engine σ α}

/-- What a visit makes of a walk that has gone over some targets. -/
theorem Toured.visit {setting : Setting α} {before middle after : Store α}
    {done all : List TargetRecord} {target : TargetRecord} {progress : Progress}
    {rows : List (Message α)} {delivered : Bool} {visit : Visit Progress}
    (toured : Toured setting before done middle) (further : done ++ [target] <+: all)
    (visits : Visits setting.campaign setting.excluded target progress rows delivered visit)
    (word : target.kind.name = setting.campaign.target)
    (logged : after.messages = middle.messages ++ rows)
    (cools : Cools setting.campaign target delivered middle after) :
    match visit with
    | .next found => Toured setting before (done ++ [target]) after ∧ found.stopped = progress.stopped
    | .stop found => Halted setting before all after ∧ found.stopped.isSome
    | .giveUp _ _ => True := by
  have reached := toured.cools.visit visits word logged cools
  obtain ⟨old, oldLogged, covers⟩ := toured.logged
  rw [oldLogged, List.append_assoc] at logged
  obtain ⟨_, about⟩ := visits.rows_about
  cases visits with
  | cancelled =>
    exact ⟨⟨reached, done, target, old, [], further, covers, by simpa using logged, .inl rfl⟩, rfl⟩
  | unread failure => exact trivial
  | skipped excludes =>
    refine ⟨⟨reached, old, by simpa using logged, covers.skip fun admits => ?_⟩, rfl⟩
    rw [admits] at excludes
    exact absurd excludes Bool.false_ne_true
  | unreachable admits none => exact ⟨⟨reached, old, by simpa using logged, covers.skip fun _ => none⟩, rfl⟩
  | @served rows tally served visit admits serves goesOn =>
    have ends := serves.ends
    have about : ∀ row ∈ rows, row.campaign = setting.campaign.id ∧
        row.target = target.kind.name ∧ row.targetId = target.id :=
      serves.rows_about.2
    cases goesOn with
    | next got => exact ⟨⟨reached, old ++ rows, logged, covers.serve about ends.1⟩, rfl⟩
    | pause got =>
      refine ⟨⟨reached, done, target, old, rows, further, covers, ?_, ?_⟩, rfl⟩
      · rw [logged, List.append_assoc]
      · refine (unpaid_rows ends.1).imp_right ?_
        rintro ⟨row, rfl, channel⟩
        obtain ⟨campaign, kind, id⟩ := about row (List.mem_cons_self ..)
        exact ⟨row, rfl, campaign, kind, id, channel⟩
    | giveUp served failure => exact trivial

/-- The walk of a calm pass whose limit cuts off nothing goes over all matching targets, unless it
is halted or fails. -/
theorem walk_tours (calm : engine.IsCalm) (reads : engine.batchSize ≠ 0) {setting : Setting α}
    {world : World σ α} (orderly : Orderly world.store)
    (word : setting.audience.kind.name = setting.campaign.target)
    (admits : Audience.Admits setting.limit (setting.audience.selected world.store).length) :
    Leads (setting.walk engine) world fun result after =>
      match result with
      | (progress, none) =>
        Toured setting world.store (setting.audience.selected world.store) after.store ∧
            progress.stopped = none ∨
          Halted setting world.store (setting.audience.selected world.store) after.store ∧
            progress.stopped.isSome
      | (_, some _) => True := by
  have table := calm.reaches (fun store => (store.created, store.targets setting.audience.kind))
    fun _ _ _ _ => by cases setting.audience.kind <;> rfl
  refine (Audience.walk_leads_selected
    (I := fun done progress after => Toured setting world.store done after.store ∧
      progress.stopped = none)
    (S := fun progress after =>
      Halted setting world.store (setting.audience.selected world.store) after.store ∧
        progress.stopped.isSome)
    reads (fun found target => visit_moves table setting.campaign setting.isTest setting.excluded
      found target) orderly.created (orderly.targets _) admits ?_ ?_).mono ?_
  · rintro done target progress middle further ⟨toured, unstopped⟩
    have kind : target.kind = setting.audience.kind :=
      Audience.records_kind target (List.mem_filter.mp
        (further.subset (List.mem_append_right _ (List.mem_singleton_self target)))).1
    refine (visit_leads calm.keepsLedgers setting.campaign setting.isTest setting.excluded progress
      target middle).mono ?_
    rintro visit after ⟨rows, delivered, visits, logged, cools⟩
    have made := toured.visit further visits (kind ▸ word) logged cools
    cases visit with
    | next found => exact ⟨made.1, made.2.trans unstopped⟩
    | stop found => exact made
    | giveUp found failure => exact trivial
  · exact ⟨⟨fun _ _ active => .inl active, [], (List.append_nil _).symm, by simp, by simp⟩, rfl⟩
  · rintro ⟨progress, _ | failure⟩ after ended <;> exact ended

end Pass

end Herald
