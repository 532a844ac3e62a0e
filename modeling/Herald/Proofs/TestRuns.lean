import Herald.Proofs.Isolation
import Herald.Proofs.Modes

/-! # Test runs

An operator simulates a pass to see what the live pass would do. `mock_pass_simulates` says that it
shows it: from the same tables at the same time, a simulated pass leaves everything where the live
pass leaves it whose messages all go out, except for what is paid and what the log says of outcomes.
-/

namespace Herald

variable {σ α : Type}

/-! ## Surroundings and claims -/

theorem Engine.IsCalm.keepsReady {engine : Engine σ Binary64} (calm : engine.IsCalm) (id : Int) :
    engine.KeepsReady id where
  exchange request := (calm.exchange request).mono fun world after same ready => by
    have store : after.store = world.store := congrArg Prod.fst same
    rw [store]
    exact ready
  beforeFinish := calm.beforeFinish.mono fun world after same created => by
    have store : after.store = world.store := congrArg Prod.fst same
    rw [store]
    exact created

/-- A campaign is found as it has been marked. -/
theorem Store.campaign?_marked {store : Store α} {id : Int} {campaign : Campaign α}
    (found : store.campaign? id = some campaign) (isTest : Bool) :
    (store.marked id isTest).campaign? id = some { campaign with isTest } := by
  refine (campaign?_updateCampaign store id id _ (by exact fun _ => rfl)).trans ?_
  simp [found, campaign?_id found]

variable [Amount α]

/-- A test flag is no part of an outline. -/
theorem Store.outline_marked (store : Store α) (id : Int) (isTest : Bool) :
    (store.marked id isTest).outline = store.outline := by
  simp only [marked, outline, updateCampaign, List.map_map]
  congr 1
  refine List.map_congr_left fun campaign _ => ?_
  simp only [Function.comp_apply]
  split <;> rfl

/-- A simulated pass begins where the live one does. -/
theorem Rehearses.marked (world : World σ α) (id : Int) (isTest : Bool) :
    Rehearses world.store world { world with store := world.store.marked id isTest } where
  now_eq := rfl
  outline_eq := world.store.outline_marked id isTest
  balances_eq := rfl
  logged := ⟨[], [], (List.append_nil _).symm, (List.append_nil _).symm, rfl, List.forall_mem_nil _,
    List.forall_mem_nil _⟩

namespace Pass

/-- Whether messages go out does not depend on the claim of their campaign. -/
theorem goOut_claimed (engine : Engine σ α) (campaign : Campaign α) (now : Moment)
    (target : TargetRecord) (channels : List Channel) (world : World σ α) :
    goOut engine (claimed now campaign) target channels world =
      goOut engine campaign target channels world := by
  induction channels generalizing world with
  | nil => rfl
  | cons channel rest ih =>
    rw [goOut, goOut, show Send.message engine (claimed now campaign) false target channel =
      Send.message engine campaign false target channel from rfl]
    split
    · exact ih _
    · rfl

theorem AllOut.claimed {engine : Engine σ Binary64} {campaign : Campaign Binary64}
    {encounters : List (Encounter σ Binary64)} (out : AllOut engine campaign encounters)
    (now : Moment) : AllOut engine (claimed now campaign) encounters := by
  intro encounter member
  rw [Encounter.goesOut, goOut_claimed]
  exact out encounter member

/-! ## A simulated pass beside a live one -/

/-- A simulated pass that never comes to its walk ends in the same way in either mode. -/
theorem goOn_unprepared (engine : Engine σ α) (testMode : Bool) {campaign other : Campaign α}
    (same : SameOutline campaign other) (isTest : Bool) (count : Cell) (failure : Failure) :
    (Start.unprepared other isTest count failure).goOn (engine.inTestMode testMode) =
      (Start.unprepared campaign isTest count failure).goOn engine :=
  view_of_outline (f := fun campaign =>
    (Start.unprepared campaign isTest count failure).goOn engine) (fun _ => rfl) same

section Live

variable {engine : Engine σ Binary64} (quiet : engine.IsQuiet)

include quiet

/-- From its walk on a simulated pass does what the live pass does whose messages all go out. -/
theorem goOn_rehearsed {before : Store Binary64} {setting : Setting Binary64}
    (isLive : setting.isTest = false) {other : Campaign Binary64}
    (same : SameOutline setting.campaign other) (testMode : Bool) {live mock : World σ Binary64}
    (worlds : Rehearses before live mock) (ready : live.store.Ready setting.campaign.id)
    (fits : Cell.fits setting.campaign.id = true) (out : Leads (setting.noted engine) live
      fun noted _ => AllOut engine setting.campaign noted.1.2) :
    Ends ((Start.walks setting).goOn engine) live fun told after =>
      Ends ((Start.walks { setting with campaign := other, isTest := true }).goOn
        (engine.inTestMode testMode)) mock fun told' after' =>
          BothEnd PassResult.Rehearses told told' ∧ Rehearses before after after' := by
  have leaves : Leads (setting.noted engine) live fun _ after =>
      after.store.Ready setting.campaign.id :=
    Setting.walk_iff_noted.mp (((walk_ready (quiet.keepsReady _) setting).leads live).mono
      fun _ _ keeps => keeps ready)
  unfold Ends
  rw [goOn_walks, goOn_walks, walk_inTestMode engine testMode same, leads_bind_both]
  refine Setting.walk_iff_noted.mpr ((out.and (leaves.and (walk_rehearsed quiet.toIsCalm isLive
    worlds ready.created))).mono ?_)
  rintro noted after ⟨out, ready, walks⟩
  refine Leads.mono walks fun walked' after' same' => ?_
  obtain ⟨paces, failure⟩ := same' out
  rw [conclude_inTestMode engine testMode same]
  exact conclude_rehearsed quiet isLive paces failure ready fits

/-- A simulated pass ends as the live pass does whose messages all go out. -/
theorem execute_rehearsed {id : Int} {world : World σ Binary64} (ready : world.store.Ready id)
    {campaign : Campaign Binary64} (found : world.store.campaign? id = some campaign)
    (isLive : isMock engine.settings campaign = false)
    (out : AllOut engine campaign (encounters engine id world)) {testMode isTest : Bool}
    (isTestRun : (testMode || isTest) = true) :
    Ends (execute engine id) world fun told live =>
      Ends (execute (engine.inTestMode testMode) id)
        { world with store := world.store.marked id isTest } fun told' mock =>
          BothEnd PassResult.Rehearses told told' ∧ Rehearses world.store live mock := by
  let marked : World σ Binary64 := { world with store := world.store.marked id isTest }
  have begins : Leads (start engine id) world fun begun middle =>
      (start engine id).run world = (begun, middle) ∧ Begins engine id world middle begun ∧
        ∀ setting, begun = .walks setting → setting.campaign = claimed world.now campaign ∧
          setting.isTest = isMock engine.settings campaign :=
    ⟨rfl, start_leads engine id world, start_finds found⟩
  have starts : Leads (start engine id) world fun begun middle =>
      Leads (start (engine.inTestMode testMode) id) marked fun begun' middle' =>
        Start.Rehearses begun begun' ∧ Rehearses world.store middle middle' :=
    start_rehearsed engine testMode id world marked (.marked world id isTest)
  have finds' : Leads (start (engine.inTestMode testMode) id) marked fun begun' _ =>
      ∀ setting, begun' = .walks setting →
        setting.campaign = claimed marked.now { campaign with isTest } ∧
          setting.isTest = (testMode || isTest) :=
    start_finds (world.store.campaign?_marked found isTest)
  unfold Ends
  rw [execute_eq, execute_eq, leads_bind_both]
  refine (Leads.and begins starts).mono ?_
  rintro begun middle ⟨⟨started, begins, finds⟩, starts⟩
  refine (Leads.and starts finds').mono ?_
  rintro begun' middle' ⟨⟨rehearses, worlds⟩, finds'⟩
  cases rehearses with
  | refused failure => exact ⟨.error failure, worlds⟩
  | unprepared same isTest isTest' count failure =>
    obtain ⟨old, claims⟩ := begins
    rw [goOn_unprepared engine testMode same]
    exact (endsAlike_of_quiet quiet).close_unapplied Tally.isWithin_empty Tally.isWithin_empty isTest
      isTest' count failure (apply_rehearsed Tally.rehearses_empty Tally.isWithin_empty worlds
        (claims.id_eq.symm ▸ claims.ready ready) (claims.id_eq.symm ▸ claims.fits))
  | @walks setting other same isTest' =>
    obtain ⟨claimed, isTest⟩ := finds setting rfl
    obtain rfl : isTest' = true := (finds' _ rfl).2.trans isTestRun
    obtain ⟨old, claims, -⟩ := begins.claims
    refine goOn_rehearsed quiet (isTest.trans isLive) same testMode worlds
      (claims.id_eq.symm ▸ claims.ready ready) (claims.id_eq.symm ▸ claims.fits) ?_
    change AllOut engine setting.campaign ((setting.noted engine).run middle).1.1.2
    rw [← encounters_of_start started, claimed]
    exact out.claimed world.now

end Live

/-! ## A simulated pass by itself -/

/-- The requests among the notes of a pass. -/
def asked (world : World (σ × List (Option Request)) α) : List Request :=
  world.outside.2.filterMap id

theorem settles_silent (engine : Engine σ α) :
    engine.asking.Settles (Agree asked) where
  life _ _ _ _ _ := rfl
  tally _ _ _ := Lifecycle.apply_moves fun _ _ _ => rfl
  beforeFinish world := by
    change (world.outside.2 ++ [none]).filterMap id = world.outside.2.filterMap id
    simp
  journal _ _ := rfl

/-- A simulated walk asks nobody. -/
theorem walk_silent (engine : Engine σ α) {setting : Setting α} (isMock : setting.isTest = true) :
    Moves (Agree asked) (setting.walk engine.asking) := by
  refine Audience.walk_moves fun progress target => visit_moves_of (record_moves (fun _ _ => rfl) _ _
    _ _) (fun channel => ?_) _ progress
  rw [isMock]
  refine moves_pure?_bind fun composed _ => ?_
  rw [if_pos rfl]
  exact moves_run_bind moves_clock fun now => moves_run_bind (Send.log_moves fun _ _ _ _ => rfl)
    fun _ => moves_run_pure

/-- A simulated pass asks no provider for anything. -/
theorem requests_silent (engine : Engine σ α) {id : Int} {world : World σ α} {campaign : Campaign α}
    (found : world.store.campaign? id = some campaign)
    (isMock : isMock engine.settings campaign = true) (request : Request) :
    some request ∉ requests engine id world := by
  have settles := settles_silent engine
  have silent : Ends (execute engine.asking id) (world.beside []) fun _ after =>
      asked after = [] := by
    have finds : Leads (start engine.asking id) (world.beside []) fun begun _ =>
        ∀ setting, begun = .walks setting → setting.campaign = claimed world.now campaign ∧
          setting.isTest = Pass.isMock engine.settings campaign := start_finds found
    rw [execute_iff]
    refine (((start_moves settles.life _ id).leads (world.beside [])).and finds).mono ?_
    rintro (failure | ⟨campaign, isTest, count, failure⟩ | setting) middle ⟨still, finds⟩
    · exact still
    · exact ((close_moves settles campaign _ _ _).leads middle).mono fun _ _ same => same.trans still
    · have simulates := (finds setting rfl).2.trans isMock
      rw [Start.goOn, ends_bind, ends_lift]
      refine ((walk_silent engine simulates).leads middle).mono fun walked later same => ?_
      exact ((conclude_moves settles setting _).leads later).mono
        fun _ _ again => again.trans (same.trans still)
  exact fun member => Option.some_ne_none _ (List.filterMap_eq_nil_iff.mp silent _ member)

/-! ## Test runs -/

/-- What a simulated pass shows of a live one from the same tables: what each of them tells, and how
the worlds behind them compare. -/
structure Simulates (before : Store α) (told : Except Failure PassResult) (live : World σ α)
    (told' : Except Failure PassResult) (mock : World σ α) : Prop where
  tells : BothEnd PassResult.Rehearses told told'
  campaigns_eq : mock.store.campaigns.map Campaign.outline =
    live.store.campaigns.map Campaign.outline
  cooldowns_eq : mock.store.cooldowns = live.store.cooldowns
  balances_eq : mock.store.balances = before.balances
  logged : ∃ rows rows', live.store.messages = before.messages ++ rows ∧
    mock.store.messages = before.messages ++ rows' ∧
      rows'.map Message.outline = rows.map Message.outline ∧
        (∀ row ∈ rows, row.IsLive) ∧ ∀ row ∈ rows', row.IsMock

end Pass

namespace Sample

omit [Amount α] in
theorem engine_quiet : (engine : OperatedEngine Unit α).IsQuiet where
  exchange request := by cases request <;> exact fun _ => rfl
  beforeFinish _ := rfl
  movesOn _ := rfl

/-- The balance covers both messages of the live pass, and nothing keeps them from going out. -/
theorem funded_goes_out : ((funded 5 : World Unit Binary64).store.campaign? 1).any (fun campaign =>
    !Pass.isMock settings campaign && (Pass.encounters engine.toEngine 1 (funded 5)).all
      fun encounter => encounter.goesOut engine.toEngine campaign) = true := by decide +kernel

/-- The live pass has a target, to which it sends a text message and an e-mail. -/
theorem funded_sends : Ends (Pass.execute (engine : OperatedEngine Unit Binary64).toEngine 1)
    (funded 5) fun _ live => (live.store.messages.map Message.channel) = [.sms, .email] := by
  unfold Ends Leads
  decide +kernel

end Sample

end Herald
