import Mathlib.Algebra.BigOperators.Group.List.Basic
import Herald.Proofs.Bystanders
import Herald.Proofs.Pacing

/-! # Targets in company

Two passes whose providers reply differently for one target visit all targets side by side. As long
as the balance covers what is due for the messages, neither pass can run out of it, so whatever
becomes of the messages to that one target, both passes go on to the next one, and there they do
the same.
-/

namespace Herald

/-! ## Tallies -/

/-- The tallies of two passes that have come equally far: each of them can be added up. -/
structure Tally.Beside (tally other : Tally) : Prop where
  within : tally.IsWithin
  within' : other.IsWithin
  isEmpty_eq : other.isEmpty = tally.isEmpty

namespace Tally

theorem beside_empty : Tally.empty.Beside Tally.empty := ⟨isWithin_empty, isWithin_empty, rfl⟩

/-- A tally with a message in it is not empty. -/
theorem isEmpty_of_record {tally counted : Tally} {channel : Channel} {sent : Sent}
    (ok : tally.record channel sent = .ok counted) : counted.isEmpty = false := by
  have counts : ∀ {counts : ChannelTally}, counts.isEmpty = false →
      (tally.withChannel channel counts).isEmpty = false := by
    intro counts some
    cases channel <;> simp [withChannel, isEmpty, some]
  have goesOut : ∀ {cost : Decimal} {delivered : Bool},
      tally.success channel cost delivered = .ok counted → counted.isEmpty = false := by
    intro cost delivered ok
    rw [success, ChannelTally.success] at ok
    split at ok
    · cases ok
      exact counts (by simp [ChannelTally.isEmpty])
    · cases ok
  cases sent with
  | rejected =>
    cases ok
    exact counts (by simp [ChannelTally.failure, ChannelTally.isEmpty])
  | charged cost => exact goesOut ok
  | simulated => exact goesOut ok

/-- Two messages are counted side by side, whatever has become of each. -/
theorem Beside.record {tally other : Tally} (beside : tally.Beside other) (channel : Channel)
    {sent sent' : Sent} (charged : ∀ cost, sent = .charged cost → cost.IsWithin 310)
    (charged' : ∀ cost, sent' = .charged cost → cost.IsWithin 310) :
    ∃ counted counted', tally.record channel sent = .ok counted ∧
      other.record channel sent' = .ok counted' ∧ counted.Beside counted' := by
  obtain ⟨counted, ok, within⟩ := beside.within.exists_record channel charged
  obtain ⟨counted', ok', within'⟩ := beside.within'.exists_record channel charged'
  exact ⟨counted, counted', ok, ok', within, within',
    (isEmpty_of_record ok').trans (isEmpty_of_record ok).symm⟩

end Tally

/-- The progress of two passes that have come equally far. -/
structure Progress.Beside (progress other : Progress) : Prop where
  eligible_eq : other.eligible = progress.eligible
  skipped_eq : other.skipped = progress.skipped
  stopped_eq : other.stopped = progress.stopped
  tally : progress.tally.Beside other.tally

namespace Pass

open Send

variable {engine : Engine (List Request) Exact} {replies replies' : Replies}
  {campaign : Campaign Exact} {addressee : Addressee} {before : Store Exact}

/-! ## The messages to a target -/

/-- What the messages to a target may cost. -/
def dues {α : Type} (settings : Settings) (campaign : Campaign α) (target : TargetRecord)
    (channels : List Channel) : ℚ :=
  (channels.map (due settings campaign target)).sum

theorem dues_cons {α : Type} (settings : Settings) (campaign : Campaign α) (target : TargetRecord)
    (channel : Channel) (rest : List Channel) :
    dues settings campaign target (channel :: rest) =
      due settings campaign target channel + dues settings campaign target rest := by
  rw [dues, List.map_cons, List.sum_cons, dues]

theorem dues_nonneg {α : Type} (settings : Settings) (campaign : Campaign α)
    (target : TargetRecord) (channels : List Channel) :
    0 ≤ dues settings campaign target channels := by
  refine List.sum_nonneg fun cost member => ?_
  obtain ⟨channel, _, rfl⟩ := List.mem_map.mp member
  exact due_nonneg settings campaign target channel

/-- The messages to a target have ended alike in both passes, but for whether any has gone out if it
is the one target. -/
inductive Served.Beside (targetId own : Int) : Served → Served → Prop
  | fully {got got' : Bool} (same : own ≠ targetId → got' = got) :
      Beside targetId own (.fully got) (.fully got')
  | outOfBalance {got got' : Bool} (same : own ≠ targetId → got' = got) :
      Beside targetId own (.outOfBalance got) (.outOfBalance got')
  | aborted (failure : Failure) : Beside targetId own (.aborted failure) (.aborted failure)

/-- From one world to another no request has been forgotten. -/
def Asks {α : Type} (before after : World (List Request) α) : Prop := before.outside <+: after.outside

instance {α : Type} : IsPreorder (World (List Request) α) Asks where
  refl _ := List.prefix_refl _
  trans _ _ _ := List.IsPrefix.trans

theorem message_asks (campaign : Campaign Exact) (isTest : Bool) (target : TargetRecord)
    (channel : Channel) :
    Moves Asks (message (engine.replying replies).toEngine campaign isTest target channel).run :=
  message_moves (fun _ _ => List.prefix_append _ _) (fun _ _ => List.prefix_refl _)
    (fun _ _ => List.prefix_refl _) campaign isTest target channel

variable (replies replies') in
/-- The messages to a target leave both passes as far apart as they have been, and what is left
covers what was left without their dues. -/
theorem serve_beside (live : engine.settings.testMode = false) (target : TargetRecord)
    (channels : List Channel) {tally tally' : Tally} {got got' : Bool}
    {first second : World (List Request) Exact} (differs : DiffersAt addressee before first second)
    (counts : tally.Beside tally') (same : target.id ≠ addressee.targetId → got' = got)
    (few : dues engine.settings campaign target channels ≤ 10 ^ (310 : ℤ))
    (covers : dues engine.settings campaign target channels ≤ balanceOf first.store campaign.tenant)
    (covers' : dues engine.settings campaign target channels ≤
      balanceOf second.store campaign.tenant) :
    Leads (serve (engine.replying replies).toEngine campaign false target channels tally got) first
      fun served after => Leads (serve (engine.replying replies').toEngine campaign false target
          channels tally' got') second fun served' after' =>
        replies.DifferOver replies' engine addressee.targetId target.id first.outside after.outside →
          served.2.Beside addressee.targetId target.id served'.2 ∧ served.1.Beside served'.1 ∧
            DiffersAt addressee before after after' ∧
              balanceOf first.store campaign.tenant ≤ balanceOf after.store campaign.tenant +
                dues engine.settings campaign target channels ∧
              balanceOf second.store campaign.tenant ≤ balanceOf after'.store campaign.tenant +
                dues engine.settings campaign target channels := by
  induction channels generalizing tally tally' got got' first second with
  | nil =>
    exact fun _ => ⟨.fully same, counts, differs, le_of_eq (add_zero _).symm,
      le_of_eq (add_zero _).symm⟩
  | cons channel rest ih =>
    have nonneg := dues_nonneg engine.settings campaign target rest
    have most := due_nonneg engine.settings campaign target channel
    rw [dues_cons] at few covers covers' ⊢
    have covered : due engine.settings campaign target channel ≤
        balanceOf first.store campaign.tenant := by linarith
    have covered' : due engine.settings campaign target channel ≤
        balanceOf second.store campaign.tenant := by linarith
    have small := (le_add_of_nonneg_right nonneg).trans few
    rw [serve, serve, leads_bind_both]
    refine ((message_beside replies replies' live differs covered covered').and
      ((message_asks campaign false target channel).leads first)).mono ?_
    rintro result middle ⟨ends, asks⟩
    refine ends.mono ?_
    rintro result' middle' ⟨pays, pays', beside⟩
    have left := pays.left
    have left' := pays'.left
    by_cases agree : replies.DifferOver replies' engine addressee.targetId target.id first.outside
        middle.outside
    · obtain ⟨results, differs⟩ := beside agree
      cases results with
      | error failure =>
        have spared := pays.left_of_nonneg nonneg
        have spared' := pays'.left_of_nonneg nonneg
        cases failure <;> first
          | exact fun _ => ⟨.aborted _, counts, differs, spared, spared'⟩
          | exact fun _ => ⟨.outOfBalance same, counts, differs, spared, spared'⟩
      | @ok sent sent' agreed =>
        obtain ⟨counted, counted', records, records', counts⟩ :=
          counts.record channel (pays.isWithin small) (pays'.isWithin small)
        dsimp only
        rw [records, records']
        have gets : target.id ≠ addressee.targetId →
            (sent'.isSuccess || got') = (sent.isSuccess || got) := fun other => by
          rw [agreed other, same other]
        refine (ih differs counts gets ((le_add_of_nonneg_left most).trans few) (by linarith)
          (by linarith)).mono
          fun served after rest => rest.mono fun served' after' rest differ => ?_
        obtain ⟨ends, counts, differs, spared, spared'⟩ := rest (differ.later asks)
        exact ⟨ends, counts, differs, by linarith, by linarith⟩
    · -- Behind replies that differ for another target there is nothing to compare.
      refine Leads.mono (?_ : Leads _ middle fun _ after => middle.outside <+: after.outside)
        fun served after grows => (leads_true _ _).mono fun _ _ _ differ =>
          absurd (differ.earlier grows) agree
      rcases result with failure | sent
      · cases failure <;> exact List.prefix_refl _
      · dsimp only
        cases tally.record channel sent with
        | error failure => exact List.prefix_refl _
        | ok counted =>
          exact (serve_moves (R := Asks) (message_asks campaign false target) rest counted _).leads
            middle

/-! ## Visits -/

/-- The one target of a campaign is recorded, if at all, without a trace among the others. -/
theorem recordIf_apartFrom {target : TargetRecord} (fits : Cell.fits campaign.id = true)
    (fits' : Cell.fits target.id = true) (got : Bool) {world : World (List Request) Exact}
    (created : world.store.created = true) :
    Ends (recordIf got campaign target) world fun result after => result = .ok () ∧
      ∃ store, after = { world with store } ∧ store.books = world.store.books ∧
        store.apartFrom ⟨campaign.id, campaign.target, target.id⟩ =
          world.store.apartFrom ⟨campaign.id, campaign.target, target.id⟩ := by
  have fitted : (Cell.fitted campaign.id : Except Failure Int) = .ok campaign.id := by
    rw [Cell.fitted, if_pos fits]
  have fitted' : (Cell.fitted target.id : Except Failure Int) = .ok target.id := by
    rw [Cell.fitted, if_pos fits']
  cases got with
  | false => exact ⟨rfl, world.store, rfl, rfl, rfl⟩
  | true =>
    rw [recordIf, if_pos rfl, CooldownLedger.record, ends_bind, ends_clock]
    dsimp only
    rw [ends_commit created]
    simp only [fitted, fitted', bind, Except.bind, pure, Except.pure]
    exact ⟨trivial, _, rfl, CooldownLedger.books_recordIn .., Store.apartFrom_recordIn _⟩

/-- Both passes go on in the same way behind a target, whatever has become of its messages. -/
theorem recordIf_beside {targetId : Int} (fits : Cell.fits campaign.id = true)
    (fits' : Cell.fits targetId = true) (target : TargetRecord) {got got' : Bool}
    (same : target.id ≠ targetId → got' = got) {first second : World (List Request) Exact}
    (differs : DiffersAt ⟨campaign.id, campaign.target, targetId⟩ before first second) :
    Ends (recordIf got campaign target) first fun result after =>
      Ends (recordIf got' campaign target) second fun result' after' => result' = result ∧
        DiffersAt ⟨campaign.id, campaign.target, targetId⟩ before after after' := by
  by_cases about : target.id = targetId
  · subst about
    refine (recordIf_apartFrom fits fits' got differs.grown.sound.created).mono ?_
    rintro _ _ ⟨rfl, store, rfl, books, apartFrom⟩
    refine (recordIf_apartFrom fits fits' got' differs.grown'.sound.created).mono ?_
    rintro _ _ ⟨rfl, store', rfl, books', apartFrom'⟩
    exact ⟨rfl, DiffersAt.shows.put differs
      (apartFrom'.trans (differs.apartFrom_eq.trans apartFrom.symm)) books books'⟩
  · rw [same about]
    cases got with
    | false => exact ⟨rfl, differs⟩
    | true =>
      refine (DiffersAt.shows.record campaign.id target.id campaign.target
        campaign.tenant fun now store store' same => ?_).leads differs
      have other : (campaign.id, campaign.target, target.id) ≠
          (campaign.id, campaign.target, targetId) := fun pairs => about (by simpa using pairs)
      rw [Store.apartFrom_recordIn_of_ne other, same, Store.apartFrom_recordIn_of_ne other]

/-- Both passes go on in the same way behind the messages to a target. -/
theorem afterTarget_beside {targetId : Int} (fits : Cell.fits campaign.id = true)
    (fits' : Cell.fits targetId = true) (target : TargetRecord) {progress progress' : Progress}
    (counts : progress.Beside progress') {served served' : Served}
    (ends : served.Beside targetId target.id served') {first second : World (List Request) Exact}
    (differs : DiffersAt ⟨campaign.id, campaign.target, targetId⟩ before first second) :
    Leads (afterTarget campaign target progress served) first fun visited after =>
      Leads (afterTarget campaign target progress' served') second fun visited' after' =>
        visited.Matches (fun found found' => found.Beside found' ∧
          DiffersAt ⟨campaign.id, campaign.target, targetId⟩ before after after') visited' := by
  cases ends with
  | aborted failure => exact .giveUp failure ⟨counts, differs⟩
  | fully same =>
    rw [afterTarget, afterTarget, leads_bind_both]
    refine (recordIf_beside fits fits' target same differs).mono
      fun _ after ends => ends.mono ?_
    rintro result after' ⟨rfl, differs⟩
    cases result with
    | ok recorded => exact .next ⟨counts, differs⟩
    | error failure => exact .giveUp failure ⟨counts, differs⟩
  | outOfBalance same =>
    rw [afterTarget, afterTarget, leads_bind_both]
    refine (recordIf_beside fits fits' target same differs).mono
      fun _ after ends => ends.mono ?_
    rintro result after' ⟨rfl, differs⟩
    cases result with
    | ok recorded => exact .stop ⟨{ counts with stopped_eq := rfl }, differs⟩
    | error failure => exact .giveUp failure ⟨counts, differs⟩

/-! ## Passes in company -/

/-- What an encounter may cost. A target is sent messages if it counts as one that the pass was to
reach. -/
def Encounter.bill {σ α : Type} (settings : Settings) (campaign : Campaign α)
    (encounter : Encounter σ α) : ℚ :=
  if encounter.visit.found.eligible = encounter.progress.eligible then 0
  else dues settings campaign encounter.target (channelsFor campaign.reach encounter.target)

/-- What some encounters may cost. -/
def billed {σ α : Type} (settings : Settings) (campaign : Campaign α)
    (encounters : List (Encounter σ α)) : ℚ :=
  (encounters.map (Encounter.bill settings campaign)).sum

/-- Two passes that have come equally far, with no less left than before them without what their
encounters may have cost. -/
structure Companions (settings : Settings) (campaign : Campaign Exact) (targetId : Int)
    (before : Store Exact) (noted : Progress × List (Encounter (List Request) Exact))
    (first : World (List Request) Exact) (progress : Progress)
    (second : World (List Request) Exact) : Prop where
  counts : noted.1.Beside progress
  worlds : DiffersAt ⟨campaign.id, campaign.target, targetId⟩ before first second
  left : balanceOf before campaign.tenant ≤
    balanceOf first.store campaign.tenant + billed settings campaign noted.2
  left' : balanceOf before campaign.tenant ≤
    balanceOf second.store campaign.tenant + billed settings campaign noted.2

theorem billed_append {settings : Settings} {encounters : List (Encounter (List Request) Exact)}
    {encounter : Encounter (List Request) Exact} :
    billed settings campaign (encounters ++ [encounter]) =
      billed settings campaign encounters + encounter.bill settings campaign := by
  rw [billed, List.map_append, List.sum_append, billed, List.map_singleton, List.sum_singleton]

theorem Encounter.bill_nonneg (settings : Settings) (campaign : Campaign Exact)
    (encounter : Encounter (List Request) Exact) :
    0 ≤ encounter.bill settings campaign := by
  unfold bill
  split
  · exact le_refl 0
  · exact dues_nonneg _ _ _ _

theorem billed_nonneg (settings : Settings) (campaign : Campaign Exact)
    (encounters : List (Encounter (List Request) Exact)) :
    0 ≤ billed settings campaign encounters := by
  refine List.sum_nonneg fun cost member => ?_
  obtain ⟨encounter, _, rfl⟩ := List.mem_map.mp member
  exact encounter.bill_nonneg settings campaign

theorem Companions.keepsPace (settings : Settings) (campaign : Campaign Exact) (targetId : Int)
    (before : Store Exact) : KeepsPace (Companions settings campaign targetId before) where
  status_eq paces id :=
    (DiffersAt.shows.status? id _ _ paces.worlds).1
  note paces encounter passed := by
    have free : encounter.bill settings campaign = 0 := if_pos passed.eligible_eq
    refine ⟨paces.counts, paces.worlds, ?_, ?_⟩
    · rw [billed_append, free, add_zero]
      exact paces.left
    · rw [billed_append, free, add_zero]
      exact paces.left'
  skip paces := { paces with
    counts := { paces.counts with skipped_eq := congrArg (· + 1) paces.counts.skipped_eq } }
  stop paces _ := { paces with counts := { paces.counts with stopped_eq := rfl } }

/-- What is asked of two passes: the balance covers the encounters of the first one, and at each of
them both are replied to in the same way, except for one target. -/
structure Comparable (engine : Engine (List Request) Exact) (replies replies' : Replies)
    (campaign : Campaign Exact) (targetId : Int) (balance : ℚ)
    (encounters : List (Encounter (List Request) Exact)) : Prop where
  covers : billed engine.settings campaign encounters ≤ balance
  differ : ∀ encounter ∈ encounters, replies.DifferOver replies' engine targetId
    encounter.target.id encounter.before.outside encounter.after.outside

theorem Comparable.back {targetId : Int} {balance : ℚ}
    {encounters : List (Encounter (List Request) Exact)}
    {encounter : Encounter (List Request) Exact} (comparable : Comparable engine replies replies'
      campaign targetId balance (encounters ++ [encounter])) :
    Comparable engine replies replies' campaign targetId balance encounters where
  covers := by
    have covers := comparable.covers
    rw [billed_append] at covers
    linarith [encounter.bill_nonneg engine.settings campaign]
  differ encounter member := comparable.differ encounter (List.mem_append_left _ member)

theorem balanceOf_of_balances {store other : Store Exact} (same : other.balances = store.balances)
    (tenant : String) : balanceOf other tenant = balanceOf store tenant := by
  simp only [balanceOf, BalanceLedger.row?, same]

section Attend

variable (replies replies') (live : engine.settings.testMode = false) {targetId : Int}
  (fits : Cell.fits campaign.id = true) (fits' : Cell.fits targetId = true)
  {first second : World (List Request) Exact}

include live fits fits'

/-- A target whose messages both passes can pay for is sent the same ones by both. -/
theorem attend_served (target : TargetRecord) {progress progress' : Progress}
    (counts : progress.Beside progress')
    (differs : DiffersAt ⟨campaign.id, campaign.target, targetId⟩ before first second) {due : ℚ}
    (due_eq : due = dues engine.settings campaign target (channelsFor campaign.reach target))
    (few : due ≤ 10 ^ (310 : ℤ)) (covers : due ≤ balanceOf first.store campaign.tenant)
    (covers' : due ≤ balanceOf second.store campaign.tenant) :
    Leads (attend (engine.replying replies).toEngine campaign false progress target) first
      fun visited after => Leads (attend (engine.replying replies').toEngine campaign false progress'
          target) second fun visited' after' =>
        replies.DifferOver replies' engine targetId target.id first.outside after.outside →
          visited.Matches (fun found found' => found.Beside found' ∧
            DiffersAt ⟨campaign.id, campaign.target, targetId⟩ before after after' ∧
              balanceOf first.store campaign.tenant ≤ balanceOf after.store campaign.tenant + due ∧
              balanceOf second.store campaign.tenant ≤ balanceOf after'.store campaign.tenant + due)
            visited' := by
  have still : ∀ (progress : Progress) (served : Served) (world : World (List Request) Exact),
      Leads (afterTarget campaign target progress served) world fun _ after =>
        (after.outside, after.store.balances) = (world.outside, world.store.balances) :=
    fun progress served world => (afterTarget_moves
      (R := Agree fun world : World (List Request) Exact => (world.outside, world.store.balances))
      (record_moves (fun _ _ => rfl) _ _ _ _) progress served).leads world
  subst due_eq
  rw [attend, attend, leads_bind_both]
  refine (serve_beside replies replies' live target _ differs counts.tally (fun _ => rfl) few
    covers covers').mono ?_
  rintro ⟨tally, served⟩ middle same
  refine same.mono ?_
  rintro ⟨tally', served'⟩ middle' same
  dsimp only at same ⊢
  by_cases agree : replies.DifferOver replies' engine targetId target.id first.outside middle.outside
  · obtain ⟨ends, tallies, differs, left, left'⟩ := same agree
    have counts : ({ progress with eligible := progress.eligible + 1, tally } : Progress).Beside
        { progress' with eligible := progress'.eligible + 1, tally := tally' } :=
      ⟨congrArg (· + 1) counts.eligible_eq, counts.skipped_eq, counts.stopped_eq, tallies⟩
    refine ((still _ served middle).and (afterTarget_beside fits fits' target counts ends
      differs)).mono ?_
    rintro visited after ⟨kept, same⟩
    refine ((still _ served' middle').and same).mono ?_
    rintro visited' after' ⟨kept', same⟩ -
    refine same.mono ?_
    rintro found found' ⟨counts, differs⟩
    refine ⟨counts, differs, ?_, ?_⟩
    · rw [balanceOf_of_balances (congrArg Prod.snd kept)]
      exact left
    · rw [balanceOf_of_balances (congrArg Prod.snd kept')]
      exact left'
  · refine (still _ served middle).mono fun visited after kept =>
      (leads_true _ _).mono fun _ _ _ differ => absurd ?_ agree
    rwa [show after.outside = middle.outside from congrArg Prod.fst kept] at differ

/-- A target that is sent messages is sent the same ones by both passes. -/
theorem attend_beside (few : balanceOf before campaign.tenant ≤ 10 ^ (310 : ℤ))
    {noted : Progress × List (Encounter (List Request) Exact)}
    {progress' : Progress} (target : TargetRecord)
    (paces : Companions engine.settings campaign targetId before noted first progress' second) :
    Leads (attend (engine.replying replies).toEngine campaign false noted.1 target) first
      fun visited after => Leads (attend (engine.replying replies').toEngine campaign false progress'
          target) second fun visited' after' =>
        Comparable engine replies replies' campaign targetId (balanceOf before campaign.tenant)
            (noted.2 ++ [⟨target, noted.1, visited, first, after⟩]) →
          KeepsPace.Goes (Companions engine.settings campaign targetId before) noted
            ⟨target, noted.1, visited, first, after⟩ visited' after' := by
  have left := paces.left
  have left' := paces.left'
  let due := dues engine.settings campaign target (channelsFor campaign.reach target)
  have billed_eq : ∀ {visited : Visit Progress} {after : World (List Request) Exact},
      visited.found.eligible = noted.1.eligible + 1 →
        billed engine.settings campaign (noted.2 ++ [⟨target, noted.1, visited, first, after⟩]) =
          billed engine.settings campaign noted.2 + due := fun counted => by
    rw [billed_append, Encounter.bill, if_neg (by dsimp only; omega)]
  have eligible := attend_eligible (engine.replying replies).toEngine campaign false noted.1 target
    first
  by_cases afford : billed engine.settings campaign noted.2 + due ≤ balanceOf before campaign.tenant
  · have nonneg := billed_nonneg engine.settings campaign noted.2
    refine (eligible.and (attend_served replies replies' live fits fits' target paces.counts
      paces.worlds (show due = _ from rfl) ?_ ?_ ?_)).mono fun visited after ⟨counted, same⟩ =>
        same.mono fun visited' after' same comparable => ?_
    · exact le_trans (by linarith) few
    · linarith
    · linarith
    · have differ := comparable.differ _ (List.mem_append_right _ (List.mem_singleton_self _))
      refine (same differ).mono fun found found' ⟨counts, differs, spared, spared'⟩ =>
        ⟨counts, differs, ?_, ?_⟩
      · rw [billed_eq counted]
        linarith
      · rw [billed_eq counted]
        linarith
  · refine eligible.mono fun visited after counted => (leads_true _ _).mono
      fun _ _ _ comparable => absurd ?_ afford
    rw [← billed_eq counted]
    exact comparable.covers

/-- The walks of both passes end in the same way. -/
theorem walk_beside (few : balanceOf before campaign.tenant ≤ 10 ^ (310 : ℤ))
    {setting : Setting Exact} (own : setting.campaign = campaign) (isLive : setting.isTest = false)
    (paces : Companions engine.settings campaign targetId before (.start, []) first .start second) :
    Leads (setting.noted (engine.replying replies).toEngine) first fun noted after =>
      Leads (setting.walk (engine.replying replies').toEngine) second fun walked' after' =>
        Comparable engine replies replies' campaign targetId (balanceOf before campaign.tenant)
            noted.1.2 →
          Companions engine.settings campaign targetId before noted.1 after walked'.1 after' ∧
            walked'.2 = noted.2 := by
  have visits : Audience.VisitsAbreast (Companions engine.settings campaign targetId before)
      (fun noted => Comparable engine replies replies' campaign targetId
        (balanceOf before campaign.tenant) noted.2)
      (noting (visit (engine.replying replies).toEngine campaign false setting.excluded))
      (visit (engine.replying replies').toEngine campaign false setting.excluded) :=
    (Companions.keepsPace engine.settings campaign targetId before).visits
      (fun _ _ => Comparable.back)
      (fun _ _ target _ _ => attend_beside replies replies' live fits fits' few target)
      setting.excluded
  rw [Setting.noted, Setting.walk, own, isLive]
  refine visits.walk (fun noted world progress' world' paces => ?_) (.start, []) .start first second
    paces
  exact DiffersAt.shows.tables _ paces.worlds

end Attend

end Pass

end Herald
