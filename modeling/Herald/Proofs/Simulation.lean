import Herald.Proofs.Pacing
import Herald.Proofs.Rehearsal

/-! # Passes whose messages all go out

A live pass whose messages all go out is simulated step by step: each message by one that is logged
as delivered, each target by a visit that goes on in the same way. That a message goes out is asked
of it where it is sent, so nothing is assumed of providers and balances but what they do in that
very pass.
-/

namespace Herald.Pass

variable {σ : Type}

/-! ## Messages that go out -/

section Out

variable {α : Type} [Amount α]

/-- Every message to a target on some channels goes out: one after the other, each of them is paid
for and taken by its provider. -/
def goOut (engine : Engine σ α) (campaign : Campaign α) (target : TargetRecord) :
    List Channel → World σ α → Bool
  | [], _ => true
  | channel :: rest, world =>
    match (Send.message engine campaign false target channel).run.run world with
    | (.ok (.charged _), after) => goOut engine campaign target rest after
    | _ => false

/-- Every message of an encounter goes out. A target is sent messages if it counts as one that the
pass was to reach. -/
def Encounter.goesOut (engine : Engine σ α) (campaign : Campaign α) (encounter : Encounter σ α) :
    Bool :=
  encounter.visit.found.eligible == encounter.progress.eligible ||
    goOut engine campaign encounter.target (channelsFor campaign.reach encounter.target)
      encounter.before

theorem goOut_cons {engine : Engine σ α} {campaign : Campaign α} {target : TargetRecord}
    {channel : Channel} {rest : List Channel} {world : World σ α}
    (out : goOut engine campaign target (channel :: rest) world = true) :
    Ends (Send.message engine campaign false target channel) world fun result after =>
      (∃ cost, result = .ok (.charged cost)) ∧ goOut engine campaign target rest after = true := by
  unfold Ends Leads
  rw [goOut] at out
  rcases sent : (Send.message engine campaign false target channel).run.run world with
    ⟨failure | ⟨cost⟩ | _ | _, after⟩ <;> rw [sent] at out
  · cases out
  · exact ⟨⟨cost, rfl⟩, out⟩
  · cases out
  · cases out

end Out

variable {engine : Engine σ Binary64} (calm : engine.IsCalm) {campaign : Campaign Binary64}
  {before : Store Binary64}

/-! ## Simulated messages beside live ones -/

include calm

/-- A message that goes out is simulated by one that costs nothing. -/
theorem message_rehearsed {target : TargetRecord} {channel : Channel} {rest : List Channel}
    {live mock : World σ Binary64} (rehearses : Rehearses before live mock)
    (created : live.store.created = true)
    (out : goOut engine campaign target (channel :: rest) live = true) :
    Leads (Send.message engine campaign false target channel).run live fun result after =>
      Leads (Send.message engine campaign true target channel).run mock fun result' after' =>
        (∃ cost, result = .ok (.charged cost) ∧ cost.IsWithin 310) ∧ result' = .ok .simulated ∧
          goOut engine campaign target rest after = true ∧
            Rehearses before after after' ∧ after.store.created = true := by
  refine ((goOut_cons out).and ((Send.message_charged calm campaign target channel live).and
    (Send.message_within engine campaign false target channel live))).mono ?_
  rintro _ after ⟨⟨⟨cost, rfl⟩, out⟩, charged, within⟩
  obtain ⟨composed, composes, row, balances, isLive, outline, now, store⟩ := charged cost rfl
  refine Leads.mono (Send.message_simulated engine
    ((Rehearses.shows.created_eq rehearses).trans created) composes) ?_
  rintro _ _ ⟨rfl, row', isMock, outline', rfl⟩
  refine ⟨⟨cost, rfl, within cost rfl⟩, rfl, out, ?_, by rw [store]; exact created⟩
  obtain ⟨rows, rows', logged, logged', same, areLive, areMock⟩ := rehearses.logged
  refine ⟨rehearses.now_eq.trans now.symm, ?_, rehearses.balances_eq, rows ++ [row], rows' ++ [row'],
    ?_, ?_, ?_, ?_, ?_⟩
  · rw [store]
    exact rehearses.outline_eq
  · rw [store, ← List.append_assoc, ← logged]
  · rw [← List.append_assoc, ← logged']
  · rw [List.map_append, List.map_append, same, List.map_singleton, List.map_singleton, outline,
      outline', rehearses.now_eq, rehearses.nextId_eq]
  · exact List.forall_mem_append.mpr ⟨areLive, List.forall_mem_singleton.mpr isLive⟩
  · exact List.forall_mem_append.mpr ⟨areMock, List.forall_mem_singleton.mpr isMock⟩

/-- The messages to a target that all go out are simulated one after the other. -/
theorem serve_rehearsed (target : TargetRecord) (channels : List Channel) {tally tally' : Tally}
    (delivered : Bool) {live mock : World σ Binary64} (rehearses : Rehearses before live mock)
    (counts : tally.Rehearses tally') (within : tally.IsWithin)
    (created : live.store.created = true)
    (out : goOut engine campaign target channels live = true) :
    Leads (serve engine campaign false target channels tally delivered) live fun served after =>
      Leads (serve engine campaign true target channels tally' delivered) mock fun served' after' =>
        (∃ got, served.2 = .fully got ∧ served'.2 = .fully got) ∧
          served.1.Rehearses served'.1 ∧ served.1.IsWithin ∧ Rehearses before after after' ∧
            after.store.created = true := by
  induction channels generalizing tally tally' delivered live mock with
  | nil => exact ⟨⟨delivered, rfl, rfl⟩, counts, within, rehearses, created⟩
  | cons channel rest ih =>
    rw [serve, serve, leads_bind_both]
    refine (message_rehearsed calm rehearses created out).mono fun result after sent =>
      sent.mono ?_
    rintro _ after' ⟨⟨cost, rfl, small⟩, rfl, out, rehearses, created⟩
    obtain ⟨counted, counted', records, records', within, counts⟩ :=
      counts.record within channel small
    dsimp only
    rw [records, records']
    exact ih true rehearses counts within created out

/-! ## Simulated visits beside live ones -/

/-- A live and a simulated pass that have come equally far. -/
structure Paces (before : Store Binary64) (progress : Progress) (live : World σ Binary64)
    (progress' : Progress) (mock : World σ Binary64) : Prop where
  worlds : Rehearses before live mock
  counts : progress.Rehearses progress'
  within : progress.tally.IsWithin
  created : live.store.created = true

omit calm in
theorem recordIf_alike (delivered : Bool) (campaign : Campaign Binary64) (target : TargetRecord) :
    Alike (Rehearses before : World σ Binary64 → World σ Binary64 → Prop)
      (recordIf delivered campaign target : Run σ Binary64 Unit).run
      (recordIf delivered campaign target : Run σ Binary64 Unit).run := by
  cases delivered with
  | false => exact alike_run_pure
  | true =>
    refine Rehearses.shows.record _ _ _ _ fun now store store' same => ?_
    rw [Store.outline_recordIn, same, Store.outline_recordIn]

omit calm in
/-- Behind a target that has got all its messages both passes go on in the same way. -/
theorem afterTarget_rehearsed (target : TargetRecord) {progress progress' : Progress} (got : Bool)
    {live mock : World σ Binary64} (paces : Paces before progress live progress' mock) :
    Leads (afterTarget campaign target progress (.fully got)) live fun visit after =>
      Leads (afterTarget campaign target progress' (.fully got)) mock fun visit' after' =>
        visit.Matches (fun found found' => Paces before found after found' after') visit' := by
  have created := (recordIf_moves (R := Agree fun world : World σ Binary64 => world.store.created)
    (record_moves (fun _ _ => rfl) campaign.id campaign.target target.id campaign.tenant) got).leads
      live
  rw [afterTarget, afterTarget, leads_bind_both]
  refine (((recordIf_alike got campaign target).leads paces.worlds).and created).mono ?_
  rintro _ after ⟨same, created⟩
  refine Leads.mono same ?_
  rintro result after' ⟨rfl, worlds⟩
  have paces : Paces before progress after progress' after' :=
    ⟨worlds, paces.counts, paces.within, created.trans paces.created⟩
  cases result with
  | ok value => exact .next paces
  | error failure => exact .giveUp failure paces

/-- A target that gets all its messages is simulated by one that does. -/
theorem attend_rehearsed (target : TargetRecord) {progress progress' : Progress}
    {live mock : World σ Binary64} (paces : Paces before progress live progress' mock)
    (out : goOut engine campaign target (channelsFor campaign.reach target) live = true) :
    Leads (attend engine campaign false progress target) live fun visited after =>
      Leads (attend engine campaign true progress' target) mock fun visited' after' =>
        visited.Matches (fun found found' => Paces before found after found' after') visited' := by
  rw [attend, attend, leads_bind_both]
  refine (serve_rehearsed calm target _ false paces.worlds paces.counts.tally paces.within
    paces.created out).mono ?_
  rintro ⟨tally, served⟩ middle same
  refine Leads.mono same ?_
  rintro ⟨tally', served'⟩ middle' ⟨⟨got, fully, fully'⟩, counts, within, worlds, created⟩
  have paces : Paces before { progress with eligible := progress.eligible + 1, tally } middle
      { progress' with eligible := progress'.eligible + 1, tally := tally' } middle' :=
    ⟨worlds, ⟨congrArg (· + 1) paces.counts.eligible_eq, paces.counts.skipped_eq,
      paces.counts.stopped_eq, counts⟩, within, created⟩
  dsimp only at fully fully' ⊢
  rw [fully, fully']
  exact afterTarget_rehearsed target got paces

omit calm in
theorem Paces.keepsPace : KeepsPace fun (noted : Progress × List (Encounter σ Binary64)) live progress'
    (mock : World σ Binary64) => Paces before noted.1 live progress' mock where
  status_eq paces id := (Rehearses.shows.status? id _ _ paces.worlds).1
  note paces _ _ := paces
  skip paces := { paces with
    counts := { paces.counts with skipped_eq := congrArg (· + 1) paces.counts.skipped_eq } }
  stop paces _ := { paces with counts := { paces.counts with stopped_eq := rfl } }

/-! ## Simulated walks beside live ones -/

/-- Every message of some encounters goes out. -/
def AllOut (engine : Engine σ Binary64) (campaign : Campaign Binary64)
    (encounters : List (Encounter σ Binary64)) : Prop :=
  ∀ encounter ∈ encounters, encounter.goesOut engine campaign = true

/-- Where all messages go out, the visits of a live pass and of a simulated one go on in the same
way. -/
theorem visits_abreast (excluded : List Int) :
    Audience.VisitsAbreast
      (fun noted live progress' mock => Paces before noted.1 live progress' mock)
      (fun noted => AllOut engine campaign noted.2)
      (noting (visit engine campaign false excluded)) (visit engine campaign true excluded) := by
  refine Paces.keepsPace.visits (fun _ _ all encounter member =>
    all encounter (List.mem_append_left _ member)) (fun noted progress' target live mock paces => ?_)
    excluded
  by_cases out : goOut engine campaign target (channelsFor campaign.reach target) live = true
  · exact (attend_rehearsed calm target paces out).mono fun visited after same =>
      same.mono fun visited' after' goes _ => goes
  · refine (attend_eligible engine campaign false noted.1 target live).mono
      fun visited after counted => (leads_true _ _).mono fun visited' after' _ all => ?_
    have goes := all _ (List.mem_append_right _ (List.mem_singleton_self _))
    simp [Encounter.goesOut, counted, out] at goes

/-- A simulated walk ends as the live walk does whose messages all go out. -/
theorem walk_rehearsed {setting : Setting Binary64} (isLive : setting.isTest = false)
    {live mock : World σ Binary64} (rehearses : Rehearses before live mock)
    (created : live.store.created = true) :
    Leads (setting.noted engine) live fun noted after =>
      Leads ({ setting with isTest := true }.walk engine) mock fun walked' after' =>
        AllOut engine setting.campaign noted.1.2 →
          Paces before noted.1.1 after walked'.1 after' ∧ walked'.2 = noted.2 := by
  have begun : Paces before Progress.start live Progress.start mock :=
    ⟨rehearses, ⟨rfl, rfl, rfl, Tally.rehearses_empty⟩, Tally.isWithin_empty, created⟩
  rw [Setting.noted, Setting.walk, isLive]
  refine (visits_abreast calm setting.excluded).walk (fun noted live progress' mock paces => ?_)
    (Progress.start, []) Progress.start live mock begun
  exact Rehearses.shows.tables _ paces.worlds

end Herald.Pass
