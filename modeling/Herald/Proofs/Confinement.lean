import Herald.Proofs.Companions
import Herald.Proofs.Totals

/-! # Failures that are confined

What becomes of the messages to one target is the business of that target alone. Two passes from the
same tables, whose providers differ only in the outcomes for one target, ask for the same, write the
same for all others and leave their campaign in the same place, as long as the balance covers what
all messages may cost. `transport_failures_confined` says so for columns of money that keep exact
decimals. `failure_lets_pass_complete` says that columns of binary numbers break it: they lose a
covered amount on the way, so a rejected message decides whether a pass completes.
-/

namespace Herald

/-- What two passes tell about themselves, apart from what they count. -/
structure PassResult.Beside (told other : PassResult) : Prop where
  campaign_eq : other.campaign = told.campaign
  status_eq : other.status = told.status
  targetCount_eq : other.targetCount = told.targetCount
  eligible_eq : other.eligible = told.eligible
  skipped_eq : other.skipped = told.skipped
  isMock_eq : other.isMock = told.isMock
  pauseReason_eq : other.pauseReason = told.pauseReason
  nextRunAt_eq : other.nextRunAt = told.nextRunAt

theorem Decimal.IsWithin.isFinite {amount : Decimal} {limit : ℤ} (within : amount.IsWithin limit) :
    amount.isFinite = true := by
  cases amount with
  | finite negative coefficient exponent => rfl
  | infinite negative => exact within.elim
  | nan negative signaling payload => exact within.elim

/-- A bounded tally can be added to any sums of exact amounts. -/
theorem Tally.IsWithin.adds {tally : Tally} (within : tally.IsWithin) (campaign : Campaign Exact) :
    (∃ sms, tally.sms.addTo campaign.sms = .ok sms) ∧
      ∃ email, tally.email.addTo campaign.email = .ok email := by
  obtain ⟨sms, smsAdds, -⟩ := ChannelTally.addTo_ok (within .sms).isFinite campaign.sms
  obtain ⟨email, emailAdds, -⟩ := ChannelTally.addTo_ok (within .email).isFinite campaign.email
  exact ⟨⟨sms, smsAdds⟩, email, emailAdds⟩

theorem PassResult.Beside.refl (told : PassResult) : told.Beside told :=
  ⟨rfl, rfl, rfl, rfl, rfl, rfl, rfl, rfl⟩

namespace Pass

variable {engine : Engine (List Request) Exact} (replies replies' : Replies)
  {before : Store Exact} {targetId : Int}

/-! ## How both passes end -/

theorem sumAlike_unsummed (id : Int) (tally tally' : Tally) :
    SumAlike (Campaign.unsummed : Campaign Exact → Campaign Exact) id tally tally' := by
  have adds : ∀ {tally : Tally} {count : Option Cell} {now : Moment} {before after : Campaign Exact},
      Campaign.Sums id tally count now before after → after.unsummed =
        if before.unsummed.id = id then { before.unsummed with
          targetCount := count.getD before.unsummed.targetCount, updatedAt := now }
        else before.unsummed := by
    intro tally count now before after sums
    unfold Campaign.Sums at sums
    by_cases same : before.id = id
    · rw [if_pos same] at sums
      obtain ⟨sms, email, -, -, rfl⟩ := sums
      exact (if_pos same).symm
    · rw [if_neg same] at sums
      rw [sums]
      exact (if_neg same).symm
  intro count now before after before' after' sums sums' same
  rw [adds sums, adds sums', same]

theorem endsAlike_replying (before : Store Exact) (engine : Engine (List Request) Exact)
    (addressee : Addressee) :
    EndsAlike (Store.apartFrom addressee) Campaign.unsummed (DiffersAt addressee before)
      (engine.replying replies).toEngine (engine.replying replies').toEngine where
  toShows := DiffersAt.shows
  left _ _ _ _ := rfl
  failed _ _ _ _ := rfl
  settings_eq := rfl
  beforeFinish := alike_run_pure
  journal _ _ _ _ differs := ⟨rfl, differs.now_eq, differs.outside_eq, differs.apartFrom_eq,
    differs.grown, differs.grown', differs.logged⟩

omit engine in
theorem conclude_beside {setting : Setting Exact} (fits : Cell.fits setting.campaign.id = true)
    {noted : Progress × List (Encounter (List Request) Exact)} {progress : Progress}
    {first second : World (List Request) Exact} (engine : Engine (List Request) Exact)
    (paces : Companions engine.settings setting.campaign targetId before noted first progress second)
    (failure? : Option Failure) :
    Ends (setting.conclude (engine.replying replies).toEngine (noted.1, failure?)) first
      fun told after => Ends (setting.conclude (engine.replying replies').toEngine
          (progress, failure?)) second fun told' after' => BothEnd PassResult.Beside told told' ∧
        DiffersAt ⟨setting.campaign.id, setting.campaign.target, targetId⟩ before after after' := by
  obtain ⟨counts, worlds, -, -⟩ := paces
  have alike := endsAlike_replying replies replies' before engine
    ⟨setting.campaign.id, setting.campaign.target, targetId⟩
  refine alike.conclude counts.stopped_eq counts.tally.within counts.tally.within' failure?
    (.of_sums alike.toShows (sumAlike_unsummed _ _ _) counts.tally.isEmpty_eq worlds
      worlds.grown.sound.created fits (fun campaign _ _ => counts.tally.within.adds campaign)
      fun campaign _ _ => counts.tally.within'.adds campaign) fun status reason nextRunAt => ?_
  exact ⟨rfl, rfl, rfl, counts.eligible_eq, counts.skipped_eq, rfl, rfl, rfl⟩

/-! ## Whole passes -/

/-- Who is replied to does not matter before the walk of a pass. -/
theorem start_replying (id : Int) : start (engine.replying replies').toEngine id =
    start (engine.replying replies).toEngine id := rfl

variable {replies replies'} in
theorem Comparable.claimed {campaign : Campaign Exact} {balance : ℚ}
    {encounters : List (Encounter (List Request) Exact)} (comparable : Comparable engine replies
      replies' campaign targetId balance encounters) (now : Moment) :
    Comparable engine replies replies' (claimed now campaign) targetId balance encounters where
  covers := comparable.covers
  differ := comparable.differ

theorem Claims.grown {id : Int} {world middle : World (List Request) Exact}
    {old campaign : Campaign Exact} (claims : Claims id world old campaign middle)
    (sound : Sound world.store) : Grown 0 world.store middle.store := by
  rw [claims.middle_eq]
  exact .of_books sound rfl rfl rfl

/-- The walks of both passes begin in the same world, with nothing sent. -/
theorem Claims.companions {id : Int} {world middle : World (List Request) Exact}
    {old campaign : Campaign Exact} (claims : Claims id world old campaign middle)
    (sound : Sound world.store) : Companions engine.settings campaign targetId world.store
      (.start, []) middle .start middle := by
  have left : balanceOf world.store campaign.tenant ≤
      balanceOf middle.store campaign.tenant + 0 := by
    rw [add_zero, claims.middle_eq]
    exact le_refl _
  exact ⟨⟨rfl, rfl, rfl, Tally.beside_empty⟩, .refl (claims.grown sound), left, left⟩

/-- Two passes whose providers reply differently for one target differ in that target. -/
theorem execute_beside {id : Int} (fits : Cell.fits targetId = true)
    {world : World (List Request) Exact} (sound : Sound world.store) {campaign : Campaign Exact}
    (found : world.store.campaign? id = some campaign)
    (isLive : isMock engine.settings campaign = false)
    (few : balanceOf world.store campaign.tenant ≤ 10 ^ (310 : ℤ))
    (comparable : Comparable engine replies replies' campaign targetId
      (balanceOf world.store campaign.tenant)
      (encounters (engine.replying replies).toEngine id world)) :
    Ends (execute (engine.replying replies).toEngine id) world fun told after =>
      Ends (execute (engine.replying replies').toEngine id) world fun told' after' =>
        BothEnd PassResult.Beside told told' ∧
          DiffersAt ⟨campaign.id, campaign.target, targetId⟩ world.store after after' := by
  have begins : Leads (start (engine.replying replies).toEngine id) world fun begun middle =>
      (start (engine.replying replies).toEngine id).run world = (begun, middle) ∧
        Begins (engine.replying replies).toEngine id world middle begun ∧
          ∀ setting, begun = .walks setting → setting.campaign = claimed world.now campaign ∧
            setting.isTest = isMock engine.settings campaign :=
    ⟨rfl, start_leads _ id world, start_finds found⟩
  unfold Ends
  rw [execute_eq, execute_eq, leads_bind_both, start_replying replies replies', leads_twice]
  refine begins.mono ?_
  rintro (failure | ⟨claimed, isTest, count, failure⟩ | setting) middle ⟨started, begins, finds⟩
  · cases begins
    exact ⟨.error failure, .refl (Grown.refl sound)⟩
  · obtain ⟨old, claims⟩ := begins
    have funded := (close_moves (engine.replying replies).respects_funded.toSettles claimed isTest
      ⟨.start, count, false⟩ (.error failure)).leads middle
    refine leads_twice.mpr
      (funded.mono fun told after funded => ⟨.same (fun _ => .refl _) told, .refl ?_⟩)
    have grown := claims.grown sound
    simpa only [add_zero] using grown.trans (funded grown.sound)
  · obtain ⟨own, isTest⟩ := finds setting rfl
    obtain ⟨old, claims, -⟩ := begins.claims
    have terms : (setting.campaign.id, setting.campaign.tenant, setting.campaign.target) =
        (campaign.id, campaign.tenant, campaign.target) := by rw [own]; rfl
    obtain ⟨id_eq, tenant_eq, target_eq⟩ := by simpa only [Prod.mk.injEq] using terms
    have counted : Leads (setting.noted (engine.replying replies).toEngine) middle fun noted _ =>
        Comparable engine replies replies' setting.campaign targetId
          (balanceOf world.store setting.campaign.tenant) noted.1.2 := by
      change Comparable engine replies replies' setting.campaign targetId _
        ((setting.noted (engine.replying replies).toEngine).run middle).1.1.2
      rw [← encounters_of_start started, tenant_eq, own]
      exact comparable.claimed world.now
    have fitsId : Cell.fits setting.campaign.id = true := claims.id_eq.symm ▸ claims.fits
    have live : engine.settings.testMode = false := (Bool.or_eq_false_iff.mp isLive).1
    rw [goOn_walks, goOn_walks, leads_bind_both]
    refine Setting.walk_iff_noted.mpr ((counted.and (walk_beside replies replies' live fitsId fits
      (tenant_eq ▸ few) rfl (isTest.trans isLive) (claims.companions sound))).mono ?_)
    rintro noted after ⟨comparable, walks⟩
    refine Leads.mono walks fun walked' after' same => ?_
    obtain ⟨paces, failure_eq⟩ := same comparable
    obtain ⟨progress', failure?⟩ := walked'
    dsimp only at failure_eq paces
    rw [failure_eq, ← id_eq, ← target_eq]
    exact conclude_beside replies replies' fitsId engine paces noted.2

/-- What two passes of a campaign from the same tables have in common, which differ in what becomes
of the messages to one target: what each of them tells, and how the worlds behind them compare. -/
structure Confined (campaign : Campaign Exact) (targetId : Int) (before : Store Exact)
    (told : Except Failure PassResult) (first : World (List Request) Exact)
    (told' : Except Failure PassResult) (second : World (List Request) Exact) : Prop where
  tells : BothEnd PassResult.Beside told told'
  outside_eq : second.outside = first.outside
  campaigns_eq : second.store.campaigns.map Campaign.unsummed =
    first.store.campaigns.map Campaign.unsummed
  cooldowns_eq :
    CooldownLedger.apartFrom ⟨campaign.id, campaign.target, targetId⟩ second.store.cooldowns =
      CooldownLedger.apartFrom ⟨campaign.id, campaign.target, targetId⟩ first.store.cooldowns
  logged : ∃ rows rows', first.store.messages = before.messages ++ rows ∧
    second.store.messages = before.messages ++ rows' ∧
      List.Forall₂ (Message.Beside targetId) rows rows' ∧ ∀ tenant,
        balanceOf second.store tenant - balanceOf first.store tenant =
          spent (rows.filter fun row => row.targetId == targetId) tenant -
            spent (rows'.filter fun row => row.targetId == targetId) tenant

end Pass

/-- Where the balance covers what all messages of a live pass may cost, replies that differ for one
target only, and end its messages, do not affect the others: both passes end in the same state of
their campaign, ask providers for the same in the same order, and write the same messages and
cooldowns for all other targets. What is left differs by what that one target is charged. -/
theorem transport_failures_confined {engine : Engine (List Request) Exact}
    {replies replies' : Replies} {world : World (List Request) Exact} (sound : Sound world.store)
    {id targetId : Int} (fits : Cell.fits targetId = true) {campaign : Campaign Exact}
    (found : world.store.campaign? id = some campaign)
    (isLive : Pass.isMock engine.settings campaign = false)
    (few : balanceOf world.store campaign.tenant ≤ 10 ^ 310)
    (comparable : Pass.Comparable engine replies replies' campaign targetId
      (balanceOf world.store campaign.tenant)
      (Pass.encounters (engine.replying replies).toEngine id world)) :
    Ends (Pass.execute (engine.replying replies).toEngine id) world fun told first =>
      Ends (Pass.execute (engine.replying replies').toEngine id) world fun told' second =>
        Pass.Confined campaign targetId world.store told first told' second := by
  have few : balanceOf world.store campaign.tenant ≤ 10 ^ (310 : ℤ) := by exact_mod_cast few
  refine (Pass.execute_beside replies replies' fits sound found isLive few comparable).mono
    fun told first ends => Leads.mono ends ?_
  rintro told' second ⟨tells, differs⟩
  exact {
    tells
    outside_eq := differs.outside_eq
    campaigns_eq := congrArg Store.campaigns differs.apartFrom_eq
    cooldowns_eq := congrArg Store.cooldowns differs.apartFrom_eq
    logged := differs.charged_eq }

namespace Sample

/-- Providers that take every message. -/
def taken : Replies
  | _, .sms .. => .answered ⟨200, some "OK:1", none⟩
  | _, .email .. => .answered ⟨200, some "", some (.record [("id", .text "m")])⟩

/-- Providers that take every message but the first one, to which nobody replies in time. -/
def lost : Replies := fun history request =>
  if history.isEmpty then .timedOut else taken history request

/-- The providers of the small history, where a text message costs ten cents. -/
def asked {α : Type} : Engine (List Request) α where
  settings := { settings with smsPrice := Settings.cents 10 }
  sms := .smsGateway (.text "u") (.text "l") (.text "p")
  email := .emailService (.text "u") (.text "k")
  batchSize := 500
  exchange _ := return .timedOut
  beforeFinish := return ()

/-- The campaign of the small history with some customers and so many cents credited. -/
def market {α : Type} [Amount α] (customers : List (List (String × Value))) (cents : Nat) :
    World (List Request) α :=
  (World.opened dawn []).after (.create "t" draft ::
    customers.map (.upsert ⟨"t", .customer, []⟩ [] .null) ++ [.credit "t" (Settings.cents cents)])

/-- Two customers, each of whom can be reached on both channels. -/
def pair : List (List (String × Value)) :=
  [[("phone", .text "123"), ("email", .text "a@b.co")],
    [("phone", .text "456"), ("email", .text "c@d.co")]]

/-- Three customers who can be reached by text message. -/
def trio : List (List (String × Value)) :=
  [[("phone", .text "123")], [("phone", .text "456")], [("phone", .text "789")]]

theorem asked_hears {α : Type} {request : Request} {reply : Reply} (history : List Request)
    (replies : reply = .timedOut ∨ reply = taken history request) :
    (asked : Engine (List Request) α).Hears request reply := by
  intro channel outgoing requests
  rcases replies with rfl | rfl
  · exact ⟨_, rfl⟩
  · cases channel <;> cases requests <;> exact ⟨_, rfl⟩

/-- Both ways of replying differ for the first customer only. -/
theorem taken_lost {α : Type} {own : Int} {earlier : List Request} (first : own = 1 ∨ earlier ≠ [])
    (later : List Request) :
    taken.DifferOver lost (asked : Engine (List Request) α) 1 own earlier later := by
  intro between request rest _
  unfold Replies.DifferFor
  split
  · refine ⟨asked_hears (earlier ++ between) (.inr rfl), asked_hears (earlier ++ between) ?_⟩
    unfold lost
    split
    · exact .inl rfl
    · exact .inr rfl
  · rename_i other
    have some : earlier ++ between ≠ [] := by simp [first.resolve_left other]
    rw [lost, if_neg (by simpa using some)]

end Sample

/-- Nobody replies to the text message to the first customer in time. Its e-mail goes out, and so do
both messages to the second customer, as they do when all messages are taken. -/
theorem sample_failures_confined :
    let engine : Engine (List Request) Exact := Sample.asked
    let world : World (List Request) Exact := Sample.market Sample.pair 22
    Ends (Pass.execute (engine.replying Sample.taken).toEngine 1) world fun told first =>
      first.store.messages.map Message.status = [.sent, .sent, .sent, .sent] ∧
        Ends (Pass.execute (engine.replying Sample.lost).toEngine 1) world fun told' second =>
          second.store.messages.map Message.status = [.failed, .sent, .sent, .sent] ∧
            ∃ campaign, world.store.campaign? 1 = some campaign ∧
              Pass.Confined campaign 1 world.store told first told' second := by
  intro engine world
  have sound : Sound world.store := (World.funded _ _ (sound_opened _ _)).sound
  have holds : (world.store.campaign? 1).any (fun campaign =>
      !Pass.isMock engine.settings campaign && decide (campaign.tenant = "t") &&
        decide (Pass.billed engine.settings campaign (Pass.encounters
          (engine.replying Sample.taken).toEngine 1 world) ≤ balanceOf world.store "t")) = true := by
    decide +kernel
  have others : ∀ encounter ∈ Pass.encounters (engine.replying Sample.taken).toEngine 1 world,
      encounter.target.id = 1 ∨ encounter.before.outside ≠ [] := by decide +kernel
  obtain ⟨campaign, found, holds⟩ := (Option.any_eq_true _ _).mp holds
  simp only [Bool.and_eq_true, Bool.not_eq_true', decide_eq_true_eq] at holds
  obtain ⟨⟨isLive, tenant⟩, covers⟩ := holds
  have few : balanceOf world.store campaign.tenant ≤ 10 ^ 310 := by
    rw [tenant]
    have little : balanceOf world.store "t" ≤ 1 := by decide +kernel
    exact little.trans (one_le_pow₀ (by norm_num))
  have confined := transport_failures_confined sound (by decide) found isLive few
    ⟨tenant ▸ covers, fun encounter member => Sample.taken_lost (others encounter member) _⟩
  have allSent : Ends (Pass.execute (engine.replying Sample.taken).toEngine 1) world
      fun _ first => first.store.messages.map Message.status = [.sent, .sent, .sent, .sent] := by
    unfold Ends Leads
    decide +kernel
  have oneLost : Ends (Pass.execute (engine.replying Sample.lost).toEngine 1) world
      fun _ second => second.store.messages.map Message.status = [.failed, .sent, .sent, .sent] := by
    unfold Ends Leads
    decide +kernel
  exact (allSent.and confined).mono fun told first ⟨allSent, confined⟩ =>
    ⟨allSent, (oneLost.and confined).mono fun told' second ⟨oneLost, confined⟩ =>
      ⟨oneLost, campaign, found, confined⟩⟩

/-- A column of binary numbers does not keep three times ten cents: once two text messages for ten
cents each have been paid for out of thirty, it does not cover the third. So the pass is paused for
lack of balance, and completes if nobody replies to the first message. -/
theorem failure_lets_pass_complete :
    let engine : Engine (List Request) Binary64 := Sample.asked
    let world : World (List Request) Binary64 := Sample.market Sample.trio 30
    (Ends (Pass.execute (engine.replying Sample.taken).toEngine 1) world fun _ first =>
        first.store.campaigns.map Campaign.status = [.paused] ∧ first.outside.length = 2) ∧
      Ends (Pass.execute (engine.replying Sample.lost).toEngine 1) world fun _ second =>
        second.store.campaigns.map Campaign.status = [.completed] ∧ second.outside.length = 3 := by
  unfold Ends Leads
  decide +kernel

end Herald
