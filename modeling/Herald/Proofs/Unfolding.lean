import Herald.Proofs.Attempts
import Herald.Proofs.Beginning
import Herald.Proofs.Careers

/-! # What may happen to stored campaigns

`Unfolds` is everything that may happen: operations, passes and ticks in any order, anything that
leaves the campaigns alone, and what passes that were already running still add up. While a provider
is asked anything may happen again, and a pass may be looked at in the midst of it. What every
change of a campaign respects holds between any two worlds of this kind, and between the calls of a
pass.
-/

namespace Herald

variable {σ α β : Type} [Amount α] {schedulable : Campaign α → Prop} {T : Store α → Store α → Prop}

/-- The stores of two worlds are related. -/
def Across (T : Store α → Store α → Prop) (before after : World σ α) : Prop :=
  T before.store after.store

theorem Store.Follows.operates (follows : Store.Follows schedulable T) {operation : Operation}
    {world : World σ α} (proper : operation.IsProper schedulable world) :
    Ends operation.run world fun _ after => Across T world after :=
  Leads.mono (operation.wrote world) fun _ _ wrote => follows.operation proper wrote

theorem Store.Follows.preorder (follows : Store.Follows schedulable T) :
    IsPreorder (World σ α) (Across T) where
  refl world := follows.refl world.store
  trans _ _ _ first second := follows.trans first second

/-! ## The calls of a pass -/

/-- Two stores are related, and so are those around each call between them. -/
structure Store.Spans (T : Store α → Store α → Prop) (calls : List (Incident σ α))
    (before after : Store α) : Prop where
  ends : T before after
  ahead : ∀ call ∈ calls, T before call.before.store
  during : ∀ call ∈ calls, T call.before.store call.after.store
  behind : ∀ call ∈ calls, T call.after.store after

/-- The stores of a pass with notes are related, and so are those around each call that it has noted
meanwhile. -/
def Noted (T : Store α → Store α → Prop) (before after : Watched σ α) : Prop :=
  ∃ calls, after.outside.2 = before.outside.2 ++ calls ∧
    Store.Spans T calls before.store after.store

/-- What an action leads to from a world that has the campaign of an id with this plan. -/
def Planned (id : Int) (plan : Campaign α) (R : World σ α → World σ α → Prop)
    (before after : World σ α) : Prop :=
  (∃ old, before.store.campaign? id = some old ∧ old.plan = plan) → R before after

section Passes

variable (follows : Store.Follows schedulable T)

include follows

theorem noted_preorder : IsPreorder (Watched σ α) (Noted T) where
  refl world := ⟨[], (List.append_nil _).symm, follows.refl world.store, List.forall_mem_nil _,
    List.forall_mem_nil _, List.forall_mem_nil _⟩
  trans := by
    rintro first second third ⟨calls, noted, left⟩ ⟨more, noted', right⟩
    refine ⟨calls ++ more, by rw [noted', noted, List.append_assoc],
      follows.trans left.ends right.ends,
      List.forall_mem_append.mpr ⟨left.ahead, fun call member => ?_⟩,
      List.forall_mem_append.mpr ⟨left.during, right.during⟩,
      List.forall_mem_append.mpr ⟨fun call member => ?_, right.behind⟩⟩
    · exact follows.trans left.ends (right.ahead call member)
    · exact follows.trans (left.behind call member) right.ends

theorem planned_preorder (id : Int) (plan : Campaign α) :
    IsPreorder (Watched σ α) (Planned id plan (Noted T)) :=
  have : IsPreorder (Watched σ α) (Noted T) := noted_preorder follows
  { refl := fun world _ => refl world
    trans := by
      rintro first second third left right ⟨old, found, planned⟩
      have related := left ⟨old, found, planned⟩
      have ⟨_, _, spans⟩ := related
      obtain ⟨middle, there, kept⟩ := follows.plans spans.ends found
      exact IsTrans.trans _ _ _ related (right ⟨middle, there, kept.trans planned⟩) }

omit [Amount α] follows in
theorem Noted.of_store {before after : Watched σ α} (stores : T before.store after.store)
    (same : after.outside.2 = before.outside.2) : Noted T before after :=
  ⟨[], by rw [same, List.append_nil], stores, List.forall_mem_nil _, List.forall_mem_nil _,
    List.forall_mem_nil _⟩

theorem Noted.of_apart {before after : Watched σ α}
    (campaigns : after.store.campaigns = before.store.campaigns)
    (created : after.store.created = before.store.created)
    (same : after.outside.2 = before.outside.2) : Noted T before after :=
  .of_store (follows.apart campaigns created) same

/-- An operation makes no calls. -/
theorem noted_operation {operation : Operation} {world : Watched σ α}
    (proper : operation.IsProper schedulable world) :
    Ends operation.run world fun _ after => Noted T world after := by
  refine Leads.mono (operation.wrote world) fun result after wrote => ?_
  refine .of_store (follows.operation proper wrote) ?_
  cases wrote <;> rfl

/-- A call that is noted is related to the worlds around it. -/
theorem noted_call {request? : Option Request} {action : Run σ α β}
    (moves : Moves (Across T) action.run) :
    Moves (Noted T) (Run.noted (Incident.mk request?) action).run := fun world =>
  ⟨[_], rfl, moves world.plain, List.forall_mem_singleton.mpr (follows.refl _),
    List.forall_mem_singleton.mpr (moves world.plain), List.forall_mem_singleton.mpr (follows.refl _)⟩

namespace Pass

/-- A claim changes its campaign into one that is sending. -/
theorem Claims.across {τ : Type} {id : Int} {world middle : World τ α} {old campaign : Campaign α}
    (claims : Claims id world old campaign middle) : T world.store middle.store := by
  rw [claims.middle_eq]
  refine follows.changes _ _ _ _ (claimed_id world.now) fun old _ runnable => ?_
  exact ⟨.begin id, trivial, .begun runnable world.now world.now⟩

/-- The end of a pass is one that the plan of its campaign determines. -/
theorem finish_planned {engine : Engine (σ × List (Incident σ α)) α} {campaign : Campaign α}
    (beforeFinish : Moves (Noted T) engine.beforeFinish.run) (stopped : Option Stopped) :
    Moves (Planned campaign.id campaign.plan (Noted T)) (finish engine campaign stopped).run := by
  have := planned_preorder (σ := σ) follows campaign.id campaign.plan
  refine finish_moves_of (R := Planned campaign.id campaign.plan (Noted T))
    (fun outOfBalance now leaving leaves => ?_) (beforeFinish.mono fun _ _ related _ => related)
    stopped
  rintro world ⟨old, found, planned⟩
  change Ends (Lifecycle.finish campaign.id leaving.status (left leaving now) : Run _ α Bool) world
    fun _ after => Noted T world after
  refine Leads.mono (Lifecycle.transition_ends ..) ?_
  rintro (failure | changed) after wrote
  · cases wrote
    exact (noted_preorder follows).refl world
  · rw [wrote.2]
    refine .of_store (follows.changes _ _ _ _ (fun _ => rfl) fun other there sending => ?_) rfl
    obtain ⟨exit, leads⟩ := leaving_exit leaves
    cases found.symm.trans there
    obtain ⟨status, reason, completedAt, nextRunAt⟩ := leaving
    cases leads
    exact ⟨.finish campaign.id exit reason completedAt nextRunAt,
      ⟨engine.settings, outOfBalance, now, campaign, planned.symm, leaves⟩,
      .left (beq_iff_eq.mp sending) now world.now⟩

variable {engine : Engine σ α} {id : Int}
  (exchange : ∀ request, Moves (Across T) (engine.exchange request).run)
  (beforeFinish : Moves (Across T) engine.beforeFinish.run)

include exchange beforeFinish

/-- A pass follows what the changes of campaigns follow, and so does each of its calls. -/
theorem execute_noted (adds : Store.Adds T id) :
    Moves (Noted T) (execute (engine.recording Incident.mk) id).run := by
  have preorder := noted_preorder (σ := σ) follows
  have marks : ∀ other reason, Moves (Noted T) (Lifecycle.markFailed other reason :
      Run (σ × List (Incident σ α)) α Bool).run := fun other reason world =>
    have proper : (Operation.markFailed other reason).IsProper schedulable world :=
      ⟨fun _ _ same => (by cases same), fun _ _ _ _ => trivial⟩
    noted_operation follows proper
  have applies : ∀ tally count, Moves (Noted T) (Lifecycle.apply id tally count :
      Run (σ × List (Incident σ α)) α Bool).run := fun tally count =>
    Lifecycle.apply_moves fun world campaigns sums => .of_store (adds _ _ _ _ _ sums) rfl
  have journals : ∀ line, Moves (Noted T) (Run.record line :
      Run (σ × List (Incident σ α)) α Unit).run := fun line world => .of_apart follows rfl rfl rfl
  have reaches : (engine.recording Incident.mk).Reaches (Noted T) := {
    message := Send.message_moves (fun request => noted_call follows (exchange request))
      (fun _ _ => .of_apart follows rfl rfl rfl) fun _ _ => .of_apart follows rfl rfl rfl
    cooldown := record_moves fun _ _ => .of_apart follows rfl rfl rfl }
  have notes : Moves (Noted T) (engine.recording Incident.mk).beforeFinish.run :=
    noted_call follows beforeFinish
  intro world
  change Ends (execute _ id) world fun _ after => Noted T world after
  refine execute_ends (fun _ => refl world) ?_ ?_
  · intro old campaign isTest count failure middle claims
    obtain rfl := claims.id_eq
    have closes := (close_moves_of applies (marks _) journals isTest ⟨.start, count, false⟩
      (.error failure)).leads middle
    refine closes.mono fun _ after closes => IsTrans.trans _ middle _ ?_ closes
    exact .of_store (claims.across follows) (by rw [claims.middle_eq])
  · intro setting middle walks
    obtain ⟨old, claims, -⟩ := walks.claims
    have started : Noted T world middle :=
      .of_store (claims.across follows) (by rw [claims.middle_eq])
    refine ((walk_moves reaches setting).leads middle).mono fun walked later walks => ?_
    have own := claims.id_eq
    have weak : ∀ {γ : Type} {action : Steady (σ × List (Incident σ α)) α γ},
        Moves (Noted T) action → Moves (Planned setting.campaign.id setting.campaign.plan (Noted T))
          action := fun moves => moves.mono fun _ _ related _ => related
    have planned := planned_preorder (σ := σ) follows setting.campaign.id setting.campaign.plan
    have concludes := (conclude_moves_of (fun tally count => weak (own ▸ applies tally count))
      (fun reason => weak (marks _ reason)) (fun line => weak (journals line)) rfl
      (finish_planned follows notes) walked).leads later
    refine concludes.mono fun result after concludes => ?_
    refine IsTrans.trans _ _ _ (IsTrans.trans _ _ _ started walks) (concludes ?_)
    obtain ⟨_, _, spans⟩ := walks
    obtain ⟨kept, found, same⟩ := follows.plans spans.ends claims.found_claimed
    exact ⟨kept, own ▸ found, same⟩

/-- The stores around the calls of a pass are related. -/
theorem execute_spans (adds : Store.Adds T id) (world : World σ α) :
    Ends (execute engine id) world fun _ after =>
      Store.Spans T (incidents engine id world) world.store after.store := by
  let holds (calls : List (Incident σ α)) (_ : Except Failure PassResult) (after : World σ α) :
      Prop := Store.Spans T calls world.store after.store
  suffices recorded : Ends (execute (engine.recording Incident.mk) id) (world.beside [])
    fun result later => holds later.outside.2 result later.plain from ends_of_recorded recorded
  refine ((execute_noted follows exchange beforeFinish adds).leads (world.beside [])).mono ?_
  rintro result after ⟨calls, noted, spans⟩
  have all : after.outside.2 = calls := noted
  change Store.Spans T after.outside.2 world.store after.store
  rw [all]
  exact spans

end Pass

end Passes

/-! ## Everything that may happen -/

/-- Whatever may happen to campaigns lies between two worlds, if the passes of these campaigns may
still be running. -/
inductive Unfolds (schedulable : Campaign α → Prop) (running : Int → Prop) :
    World σ α → World σ α → Prop
  | rest (world : World σ α) : Unfolds schedulable running world world
  | apart {before middle after : World σ α} (earlier : Unfolds schedulable running before middle)
    (campaigns : after.store.campaigns = middle.store.campaigns)
    (created : after.store.created = middle.store.created) :
    Unfolds schedulable running before after
  | operate {before middle : World σ α} (earlier : Unfolds schedulable running before middle)
    (operation : Operation) (proper : operation.IsProper schedulable middle) :
    Unfolds schedulable running before (operation.run.worldAfter middle)
  | tally {before middle : World σ α} (earlier : Unfolds schedulable running before middle) {id : Int}
    (runs : running id) (tally : Tally) (targetCount : Option Cell) :
    Unfolds schedulable running before
      ((Lifecycle.apply id tally targetCount).worldAfter middle)
  | execute {before middle : World σ α} (earlier : Unfolds schedulable running before middle)
    (engine : Engine σ α)
    (exchange : ∀ request world,
      Unfolds schedulable running world ((engine.exchange request).worldAfter world))
    (beforeFinish : ∀ world, Unfolds schedulable running world (engine.beforeFinish.worldAfter world))
    (id : Int) :
    Unfolds schedulable running before ((Pass.execute engine id).worldAfter middle)
  | tick {before middle : World σ α} (earlier : Unfolds schedulable running before middle)
    (engine : Engine σ α)
    (exchange : ∀ request world,
      Unfolds schedulable running world ((engine.exchange request).worldAfter world))
    (beforeFinish : ∀ world,
      Unfolds schedulable running world (engine.beforeFinish.worldAfter world)) :
    Unfolds schedulable running before ((Scheduler.tick engine).worldAfter middle)
  /-- A provider is about to be asked in a pass. -/
  | during {before middle : World σ α} (earlier : Unfolds schedulable running before middle)
    (engine : Engine σ α)
    (exchange : ∀ request world,
      Unfolds schedulable running world ((engine.exchange request).worldAfter world))
    (beforeFinish : ∀ world, Unfolds schedulable running world (engine.beforeFinish.worldAfter world))
    (id : Int) {call : Incident σ α} (happens : call ∈ Pass.incidents engine id middle) :
    Unfolds schedulable running before call.before

/-- An engine around which whatever may happen to campaigns happens. -/
structure Engine.Unfolds (engine : Engine σ α) (schedulable : Campaign α → Prop)
    (running : Int → Prop) : Prop where
  exchange : ∀ request world,
    Herald.Unfolds schedulable running world ((engine.exchange request).worldAfter world)
  beforeFinish : ∀ world,
    Herald.Unfolds schedulable running world (engine.beforeFinish.worldAfter world)

variable {running : Int → Prop}

/-- What the changes of campaigns, the tallies of the passes that are running and the passes that
begin follow holds between any two worlds. -/
theorem Unfolds.related (follows : Store.Follows schedulable T)
    (adds : ∀ id, running id → Store.Adds T id)
    (passes : ∀ (engine : Engine σ α) id,
      (∀ request, Moves (Across T) (engine.exchange request).run) →
        Moves (Across T) engine.beforeFinish.run → ∀ world,
          Ends (Pass.execute engine id) world fun _ after => T world.store after.store ∧
            ∀ call ∈ Pass.incidents engine id world, T world.store call.before.store)
    {before after : World σ α} (unfolds : Unfolds schedulable running before after) :
    T before.store after.store := by
  have preorder := follows.preorder (σ := σ)
  have executes : ∀ {engine : Engine σ α},
      (∀ request world, T world.store ((engine.exchange request).worldAfter world).store) →
        (∀ world, T world.store (engine.beforeFinish.worldAfter world).store) →
          ∀ id, Moves (Across T) (Pass.execute engine id).run := fun exchange beforeFinish id world =>
    (passes _ id exchange beforeFinish world).1
  induction unfolds with
  | rest => exact follows.refl _
  | apart _ campaigns created ih => exact follows.trans ih (follows.apart campaigns created)
  | operate _ operation proper ih => exact follows.trans ih (follows.operates proper)
  | tally _ runs tally count ih =>
    refine follows.trans ih ?_
    exact Lifecycle.apply_moves (R := Across T) (fun world campaigns sums =>
      adds _ runs _ _ _ _ _ sums) _
  | execute _ engine _ _ id ih exchange beforeFinish =>
    exact follows.trans ih (executes exchange beforeFinish id _)
  | tick _ engine _ _ ih exchange beforeFinish =>
    refine follows.trans ih ?_
    refine Scheduler.tick_moves (R := Across T) (fun id now world => ?_)
      (executes exchange beforeFinish) _
    have proper : (Operation.expire id now).IsProper schedulable world :=
      ⟨fun _ _ same => (by cases same), fun _ _ _ _ => trivial⟩
    exact follows.operates proper
  | during _ engine _ _ id happens ih exchange beforeFinish =>
    refine follows.trans ih ?_
    exact (passes engine id exchange beforeFinish _).2 _ happens

/-- Every campaign becomes what it is later. -/
theorem Unfolds.proceeds {before after : World σ α}
    (unfolds : Unfolds schedulable running before after) :
    before.store.Proceeds schedulable after.store :=
  unfolds.related Store.proceeds_follows (fun id _ => Store.proceeds_adds id)
    fun _ id exchange beforeFinish world =>
      (Pass.execute_spans Store.proceeds_follows exchange beforeFinish (Store.proceeds_adds id)
        world).mono fun _ _ spans => ⟨spans.ends, spans.ahead⟩

/-- Every campaign becomes what it is at each call of a pass, and behind the pass. -/
theorem Engine.Unfolds.spans {engine : Engine σ α} (unfolds : engine.Unfolds schedulable running)
    (id : Int) (world : World σ α) :
    Ends (Pass.execute engine id) world fun _ after =>
      Store.Spans (Store.Proceeds schedulable) (Pass.incidents engine id world) world.store
        after.store :=
  Pass.execute_spans Store.proceeds_follows
    (fun request world => (unfolds.exchange request world).proceeds)
    (fun world => (unfolds.beforeFinish world).proceeds) (Store.proceeds_adds id) world

/-- A world that can come about, from empty tables on. -/
def Reached (schedulable : Campaign α → Prop) (world : World σ α) : Prop :=
  ∃ now outside, Unfolds schedulable (fun _ => True) (World.opened now outside) world

namespace Reached

variable {world : World σ α} (reached : Reached schedulable world)

include reached

theorem proceeds : (Store.empty : Store α).Proceeds schedulable world.store := by
  obtain ⟨now, outside, unfolds⟩ := reached
  exact unfolds.proceeds

/-- The tables have been created. -/
theorem created : world.store.created = true := reached.proceeds.created

/-- No two campaigns share an id. -/
theorem ascending : Ascending (world.store.campaigns.map Campaign.id) :=
  reached.proceeds.ascending ascending_nil

/-- A campaign that is found has once been made. -/
theorem becomes {id : Int} {campaign : Campaign α}
    (found : world.store.campaign? id = some campaign) : ∃ tenant now draft, draft.IsPlain ∧
      (Campaign.ofDraft id tenant now draft).Becomes schedulable campaign :=
  reached.proceeds.makes rfl found

/-- What holds of a campaign when it is made, and is lost by no change, holds of every campaign. -/
theorem holds {P : Campaign α → Prop} {id : Int} {campaign : Campaign α}
    (found : world.store.campaign? id = some campaign)
    (made : ∀ tenant now draft, draft.IsPlain → P (Campaign.ofDraft id tenant now draft))
    (steps : ∀ {old new}, Campaign.Step schedulable old new → P old → P new) : P campaign := by
  obtain ⟨tenant, now, draft, plain, becomes⟩ := reached.becomes found
  exact becomes.keeps steps (made tenant now draft plain)

end Reached

/-! ## Histories -/

section Histories

variable {start world : World σ α}

/-- What an operator does as intended may happen. -/
theorem Unfolds.act (earlier : Unfolds schedulable running start world) (action : OperatorAction)
    (proper : (Operation.operate action).IsProper schedulable world) :
    Unfolds schedulable running start ((action.run : Run σ α (Campaign α)).worldAfter world) := by
  have unfolds := earlier.operate (.operate action) proper
  rwa [Operation.run, Run.worldAfter_then] at unfolds

/-- A campaign may be made of a draft that can be submitted. -/
theorem Unfolds.make (earlier : Unfolds schedulable running start world) (tenant : String)
    {draft : Draft} (plain : draft.IsPlain) :
    Unfolds schedulable running start ((Event.create tenant draft).after world) := by
  have proper : (Operation.create tenant draft).IsProper schedulable world :=
    ⟨fun _ _ same => (by cases same; exact plain), fun _ _ about => by cases about⟩
  have unfolds := earlier.operate (.create tenant draft) proper
  rwa [Operation.run, Run.worldAfter_then] at unfolds

theorem OperatorAction.isProper (action : OperatorAction) (world : World σ α) :
    (Operation.operate action).IsProper (fun _ => True) world :=
  ⟨fun _ _ same => (by cases same), fun _ old _ _ => by cases action <;> trivial⟩

variable (earlier : Unfolds (fun _ => True) running start world)

include earlier

theorem Operated.unfolds {after : World σ α} (operated : Operated world after) :
    Unfolds (fun _ => True) running start after := by
  induction operated with
  | refl => exact earlier
  | tail _ step ih =>
    cases step with
    | act action => exact ih.act action (action.isProper _)
    | elapse same => exact ih.apart (by rw [same]) (by rw [same])

omit earlier in
theorem OperatedEngine.unfolds (engine : OperatedEngine σ α) :
    engine.toEngine.Unfolds (fun _ => True) running where
  exchange request world := (engine.exchange_operated request world).unfolds (.rest world)
  beforeFinish world := (engine.beforeFinish_operated world).unfolds (.rest world)

/-- An event of a history may happen, if no campaign is made of a draft that cannot be submitted. -/
theorem Event.unfolds (event : Event σ α)
    (plain : ∀ tenant draft, event = .create tenant draft → draft.IsPlain) :
    Unfolds (fun _ => True) running start (event.after world) := by
  have rest : ∀ {after : World σ α},
      (after.store.campaigns, after.store.created) = (world.store.campaigns, world.store.created) →
        Unfolds (fun _ => True) running start after := fun same =>
    earlier.apart (congrArg Prod.fst same) (congrArg Prod.snd same)
  let view (store : Store α) := (store.campaigns, store.created)
  have keeps : History.KeepsRecords (Agree fun world : World σ α => view world.store) :=
    History.keepsRecords_of fun _ _ _ _ _ _ => rfl
  cases event with
  | execute engine id => exact earlier.execute _ engine.unfolds.exchange engine.unfolds.beforeFinish id
  | tick engine => exact earlier.tick _ engine.unfolds.exchange engine.unfolds.beforeFinish
  | expire id now =>
    exact earlier.operate (.expire id now) ⟨fun _ _ same => (by cases same), fun _ _ _ _ => trivial⟩
  | operate action => exact earlier.act action (action.isProper world)
  | create tenant draft => exact earlier.make tenant (plain tenant draft rfl)
  | credit tenant amount => exact rest (keeps.credit tenant amount world)
  | define tenant target spec => exact rest (keeps.define tenant target spec world)
  | upsert schema data externalId fields =>
    exact rest (keeps.upsert schema data externalId fields world)
  | cleanup days => exact rest (keeps.cleanup days world)
  | elapse now outside => exact rest (keeps.elapse world now outside)

/-- A history is one way in which everything may unfold. -/
theorem World.after_unfolds (events : List (Event σ α))
    (plain : ∀ tenant draft, .create tenant draft ∈ events → draft.IsPlain) :
    Unfolds (fun _ => True) running start (world.after events) := by
  induction events generalizing world with
  | nil => exact earlier
  | cons event rest ih =>
    refine ih (event.unfolds earlier fun tenant draft same => ?_) fun tenant draft member =>
      plain tenant draft (List.mem_cons_of_mem _ member)
    exact plain tenant draft (same ▸ List.mem_cons_self ..)

end Histories

end Herald
