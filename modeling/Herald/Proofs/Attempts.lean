import Herald.Proofs.Lives

/-! # The calls of a pass

A message asks its provider at most once, and has done no more than pay by then. So the calls that a
pass makes for a target follow the target's channels, and behind each of them only the channels that
remain can be attempted. `Amid` places a call within the messages to a target in this way: what it
was for, what the calls and the rows behind it are about, and how the campaign lived on meanwhile.
-/

namespace Herald

variable {σ α : Type} [Amount α]

/-! ## One message -/

/-- The request of a message to a target on a channel. -/
def Send.Asks (engine : Engine σ α) (content : Content) (target : TargetRecord)
    (channel : Channel) (request : Request) : Prop :=
  ∃ message, Composed.of engine.settings content target.attributes channel = .ok message ∧
    (engine.provider channel).request (message.outgoing content
      (Text.trimmed ((target.contact channel).getD "")) channel) = .ok request

/-- A world behind an action that asks a provider at most once: `P` leads up to the call, and `Q` on
from there, or all the way if there is no call. -/
inductive AsksOnce (engine : Engine σ α) (asks : Request → Prop)
    (P Q : World σ α → World σ α → Prop) (before after : World σ α) : Prop
  | silent (quiet : Q before after) : AsksOnce engine asks P Q before after
  | asked {request : Request} {middle : World σ α} (asked : asks request) (ahead : P before middle)
    (behind : Q ((engine.exchange request).run.run middle).2 after) :
    AsksOnce engine asks P Q before after

section Once

variable {engine : Engine σ α} {asks : Request → Prop} {P Q : World σ α → World σ α → Prop}
  [IsPreorder (World σ α) P] [IsPreorder (World σ α) Q]

omit [Amount α] [IsPreorder (World σ α) P] in
theorem AsksOnce.on {before middle after : World σ α}
    (once : AsksOnce engine asks P Q before middle) (quiet : Q middle after) :
    AsksOnce engine asks P Q before after := by
  cases once with
  | silent first => exact .silent (IsTrans.trans _ _ _ first quiet)
  | asked asked ahead behind => exact .asked asked ahead (IsTrans.trans _ _ _ behind quiet)

namespace Send

omit [Amount α] [IsPreorder (World σ α) P] in
/-- Asking a provider is one call, or none if there is nothing to ask. -/
theorem deliver_asksOnce {channel : Channel} {outgoing : Outgoing} {before world : World σ α}
    (ahead : P before world) (quiet : Q before world) :
    Ends (deliver engine channel outgoing) world fun _ after => AsksOnce engine
      (fun request => (engine.provider channel).request outgoing = .ok request) P Q before after := by
  unfold deliver
  dsimp only
  split
  · exact .silent quiet
  · rw [ends_bind, ends_pure?]
    cases asked : (engine.provider channel).request outgoing with
    | error failure => exact .silent quiet
    | ok request =>
      dsimp only
      rw [ends_bind]
      have called : Ends (engine.exchange request) world fun _ after =>
          after = ((engine.exchange request).run.run world).2 := rfl
      refine Leads.mono called ?_
      rintro (failure | reply) after rfl
      · exact .asked rfl ahead (refl _)
      · exact ends_pure?.mpr (.asked rfl ahead (refl _))

section Steps

variable (pays : BalanceLedger.Allows P) (weaken : ∀ before after, P before after → Q before after)
  (logs : ∀ (world : World σ α) row,
    Q world { world with store := { world.store with messages := world.store.messages ++ [row] } })

include pays weaken logs

/-- A message that is paid for asks its provider at most once. -/
theorem sendLive_asksOnce (tenant : String) (cost : Decimal) (channel : Channel)
    (outgoing : Outgoing) (row : Moment → Int → Message α) (world : World σ α) :
    Ends (sendLive engine tenant channel cost outgoing row) world fun _ after => AsksOnce engine
      (fun request => (engine.provider channel).request outgoing = .ok request) P Q world after := by
  have repays := BalanceLedger.refund_moves (R := Q) (fun world balances =>
    weaken _ _ (pays world balances)) tenant cost
  rw [sendLive, ends_bind]
  refine ((BalanceLedger.deduct_moves pays tenant cost).leads world).mono ?_
  rintro (failure | _ | _) paid pays
  · exact .silent (weaken _ _ pays)
  · exact .silent (weaken _ _ pays)
  · simp only [Bool.not_true, Bool.false_eq_true, ↓reduceIte]
    rw [ends_bind, settle, ends_bind, ends_attempt]
    refine (deliver_asksOnce pays (weaken _ _ pays)).mono fun result asked once => ?_
    have logged : ∀ (sent : Sent) {message : Int → Except Failure (Message α)},
        Moves Q (do Run.commit (logIn message); return sent : Run σ α Sent).run := fun sent _ =>
      moves_run_bind (log_moves fun world _ row _ => logs world row) fun _ => moves_run_pure
    have rest : ∀ outcome : Outcome, Moves Q (if outcome.success then do
        let now ← Run.clock
        Run.commit (logIn fun id => sentRow (row now id) cost outcome now)
        return .charged cost
      else do
        BalanceLedger.refund tenant cost
        let now ← Run.clock
        Run.commit (logIn fun id => .ok { row now id with error := outcome.errorMessage })
        return .rejected : Run σ α Sent).run := by
      intro outcome
      split
      · exact moves_run_bind moves_clock fun now => logged _
      · exact moves_run_bind repays fun _ => moves_run_bind moves_clock fun now => logged _
    cases result with
    | ok outcome => exact ((rest outcome).leads asked).mono fun _ _ quiet => once.on quiet
    | error failure =>
      dsimp only
      split
      · exact ((rest _).leads asked).mono fun _ _ quiet => once.on quiet
      · exact ((rest _).leads asked).mono fun _ _ quiet => once.on quiet
      · rw [ends_bind]
        refine (repays.leads asked).mono fun repaid after quiet => ?_
        cases repaid <;> exact once.on quiet

/-- A message of a pass asks its provider at most once. -/
theorem message_asksOnce (campaign : Campaign α) (isTest : Bool) (target : TargetRecord)
    (channel : Channel) (world : World σ α) :
    Ends (message engine campaign isTest target channel) world fun _ after =>
      AsksOnce engine (Asks engine campaign.content target channel) P Q world after := by
  rw [message, ends_bind, ends_pure?]
  cases composes : Composed.of engine.settings campaign.content target.attributes channel with
  | error failure => exact .silent (refl world)
  | ok composed =>
    dsimp only
    split
    · have simulates : Moves Q (simulate (row campaign target channel composed
          (Text.trimmed ((target.contact channel).getD "")) isTest) : Run σ α Sent).run :=
        moves_run_bind moves_clock fun _ => moves_run_bind
          (log_moves fun world _ row _ => logs world row) fun _ => moves_run_pure
      exact (simulates.leads world).mono fun _ _ quiet => .silent quiet
    · refine (sendLive_asksOnce pays weaken logs _ _ channel _ _ world).mono fun _ after once => ?_
      cases once with
      | silent quiet => exact .silent quiet
      | asked asked ahead behind => exact .asked ⟨composed, composes, asked⟩ ahead behind

end Steps

end Send

end Once

/-! ## One target -/

/-- A world of a pass with the calls that it has made so far beside it. -/
abbrev Watched (σ α : Type) : Type := World (σ × List (Incident σ α)) α

namespace Incident

/-- A call for the message to a target on a channel. -/
def IsFor (engine : Engine σ α) (content : Content) (target : TargetRecord) (channel : Channel)
    (incident : Incident σ α) : Prop :=
  ∃ request, incident.request? = some request ∧ Send.Asks engine content target channel request

/-- A call between two worlds of a pass: the campaign lives on up to the call and behind it, and no
cooldown has been recorded before it. -/
structure Within (id : Int) (before after : Watched σ α) (incident : Incident σ α) : Prop where
  ahead : Life.Sustained (before.store.life? id) (incident.before.store.life? id)
  behind : Life.Sustained (incident.after.store.life? id) (after.store.life? id)
  cooldowns_eq : incident.before.store.cooldowns = before.store.cooldowns

omit [Amount α] in
theorem Within.on {id : Int} {before middle after : Watched σ α} {incident : Incident σ α}
    (within : incident.Within id before middle) (sustains : Sustains id middle after) :
    incident.Within id before after :=
  ⟨within.ahead, within.behind.trans sustains, within.cooldowns_eq⟩

omit [Amount α] in
theorem Within.since {id : Int} {before middle after : Watched σ α} {incident : Incident σ α}
    (within : incident.Within id middle after) (sustains : Sustains id before middle)
    (cooldowns : middle.store.cooldowns = before.store.cooldowns) :
    incident.Within id before after :=
  ⟨sustains.trans within.ahead, within.behind, within.cooldowns_eq.trans cooldowns⟩

end Incident

/-- What is not about campaigns remains as it is around a pass. -/
theorem Attended.agrees {κ : Type} {view : Store α → κ} {id : Int}
    (blind : ∀ store campaigns, view { store with campaigns } = view store)
    {before after : World σ α} (attended : Attended id before after) :
    view after.store = view before.store :=
  attended.related (R := Agree fun world => view world.store)
    (fun world _ _ _ _ => blind world.store _)
    (fun _ _ => Lifecycle.create_moves fun world _ _ => blind world.store _)
    fun _ _ same => congrArg view same

/-- What is not about campaigns remains as it is behind the walk of a pass. -/
theorem Engine.Attended.settles {κ : Type} {f : Store α → κ} {engine : Engine σ α} {id : Int}
    (attended : engine.Attended id)
    (blind : ∀ store campaigns, f { store with campaigns } = f store) :
    engine.Settles (Agree fun world => f world.store) where
  life world _ _ _ _ := blind world.store _
  tally _ _ _ := Lifecycle.apply_moves fun world _ _ => blind world.store _
  beforeFinish world := (attended.beforeFinish world).agrees blind
  journal _ _ := rfl

namespace Pass

variable {engine : Engine σ α} {id : Int}

/-- Calls that follow channels: at most one for each of them, in their order. -/
inductive Follows (engine : Engine σ α) (content : Content) (target : TargetRecord) :
    List Channel → List (Incident σ α) → Prop
  | ends (channels : List Channel) : Follows engine content target channels []
  | silent {channel : Channel} {rest : List Channel} {calls : List (Incident σ α)}
    (follows : Follows engine content target rest calls) :
    Follows engine content target (channel :: rest) calls
  | asked {channel : Channel} {rest : List Channel} {incident : Incident σ α}
    {calls : List (Incident σ α)} (asks : incident.IsFor engine content target channel)
    (follows : Follows engine content target rest calls) :
    Follows engine content target (channel :: rest) (incident :: calls)

/-- A call for the message to a target on one of some channels, and what is behind it: the calls
that follow are for the channels that remain, and the rows that the log has gained since are about
the target, on the channel of the call and those that remain. -/
def Attempts (engine : Engine σ α) (campaign : Campaign α) (target : TargetRecord)
    (channels : List Channel) (log : List (Message α)) (incident : Incident σ α)
    (later : List (Incident σ α)) : Prop :=
  ∃ first channel rest rows, channels = first ++ channel :: rest ∧
    incident.IsFor engine campaign.content target channel ∧
    Follows engine campaign.content target rest later ∧
    log = incident.before.store.messages ++ rows ∧
    (rows.map Message.channel <+: channel :: rest) ∧ ∀ row ∈ rows,
      row.campaign = campaign.id ∧ row.target = target.kind.name ∧ row.targetId = target.id

/-- The calls of one message: at most one, and nothing has been logged before it. -/
inductive OneCall (engine : Engine σ α) (id : Int) (campaign : Campaign α) (target : TargetRecord)
    (channel : Channel) (before after : Watched σ α) : List (Incident σ α) → Prop
  | none : OneCall engine id campaign target channel before after []
  | one {incident : Incident σ α} (isFor : incident.IsFor engine campaign.content target channel)
    (within : incident.Within id before after)
    (log : incident.before.store.messages = before.store.messages) :
    OneCall engine id campaign target channel before after [incident]

omit [Amount α] in
theorem OneCall.on {campaign : Campaign α} {target : TargetRecord} {channel : Channel}
    {before middle after : Watched σ α} {calls : List (Incident σ α)}
    (once : OneCall engine id campaign target channel before middle calls)
    (sustains : Sustains id middle after) :
    OneCall engine id campaign target channel before after calls := by
  cases once with
  | none => exact .none
  | one isFor within log => exact .one isFor (within.on sustains) log

theorem message_calls (id : Int) (campaign : Campaign α) (isTest : Bool) (target : TargetRecord)
    (channel : Channel) (world : Watched σ α) :
    Ends (Send.message (engine.recording Incident.mk) campaign isTest target channel) world
      fun _ after => ∃ calls, after.outside.2 = world.outside.2 ++ calls ∧
        OneCall engine id campaign target channel world after calls := by
  let quiet (world : Watched σ α) := (world.outside.2, world.store.life? id)
  let ahead (world : Watched σ α) := (quiet world, world.store.messages, world.store.cooldowns)
  refine (Send.message_asksOnce (P := Agree ahead) (Q := Agree quiet) (fun _ _ => rfl)
    (fun _ _ same => congrArg Prod.fst same) (fun _ _ => rfl) campaign isTest target channel
    world).mono fun _ after once => ?_
  cases once with
  | silent same => exact ⟨[], (congrArg Prod.fst same).trans (List.append_nil _).symm, .none⟩
  | @asked request middle asked before behind =>
    obtain ⟨⟨calls, life⟩, log, cooldowns⟩ : ((_ ∧ _) ∧ _ ∧ _) := by
      simpa only [Agree, ahead, quiet, Prod.mk.injEq] using before
    obtain ⟨noted, life'⟩ : (_ ∧ _) := by
      simpa only [Agree, quiet, Prod.mk.injEq] using behind
    let called := ((engine.exchange request).run.run middle.plain).2
    have calls' : after.outside.2 = middle.outside.2 ++ [⟨some request, middle.plain, called⟩] := noted
    have life' : after.store.life? id = called.store.life? id := life'
    refine ⟨_, by rw [calls', calls], .one ⟨request, rfl, ?_⟩ ⟨?_, ?_, cooldowns⟩ log⟩
    · cases channel <;> exact asked
    · exact life ▸ .refl _
    · exact life' ▸ .refl _

/-- The calls for the messages to a target on some channels: they follow the channels, and each of
them is amid the messages. -/
structure Calls (engine : Engine σ α) (id : Int) (campaign : Campaign α) (target : TargetRecord)
    (channels : List Channel) (before after : Watched σ α) (calls : List (Incident σ α)) : Prop where
  noted : after.outside.2 = before.outside.2 ++ calls
  follows : Follows engine campaign.content target channels calls
  amid : ∀ earlier incident later, calls = earlier ++ incident :: later →
    incident.Within id before after ∧
      Attempts engine campaign target channels after.store.messages incident later

omit [Amount α] in
/-- What is behind a call for a later channel is the same seen from an earlier one. -/
theorem Attempts.behind {campaign : Campaign α} {target : TargetRecord} {channels : List Channel}
    {log : List (Message α)} {incident : Incident σ α} {later : List (Incident σ α)}
    (attempts : Attempts engine campaign target channels log incident later) (channel : Channel) :
    Attempts engine campaign target (channel :: channels) log incident later := by
  obtain ⟨first, current, rest, rows, rfl, holds⟩ := attempts
  exact ⟨channel :: first, current, rest, rows, rfl, holds⟩

omit [Amount α] in
theorem Calls.nothing (campaign : Campaign α) (target : TargetRecord) (channels : List Channel)
    (world : Watched σ α) : Calls engine id campaign target channels world world [] :=
  ⟨(List.append_nil _).symm, .ends channels, fun _ _ _ split => by simp at split⟩

omit [Amount α] in
theorem Calls.on {campaign : Campaign α} {target : TargetRecord} {channels : List Channel}
    {before middle after : Watched σ α} {calls : List (Incident σ α)}
    (made : Calls engine id campaign target channels before middle calls)
    (outside : after.outside = middle.outside)
    (messages : after.store.messages = middle.store.messages) (sustains : Sustains id middle after) :
    Calls engine id campaign target channels before after calls where
  noted := outside ▸ made.noted
  follows := made.follows
  amid earlier incident later split :=
    let ⟨within, attempts⟩ := made.amid earlier incident later split
    ⟨within.on sustains, messages ▸ attempts⟩

/-- The calls of a message and those behind it, if the rows are the ones of a target's messages. -/
theorem Calls.cons {campaign : Campaign α} {target : TargetRecord} {channel : Channel}
    {rest : List Channel} {before middle after : Watched σ α} {head calls : List (Incident σ α)}
    {tally total : Tally} {delivered : Bool} {rows : List (Message α)} {served : Served}
    (noted : middle.outside.2 = before.outside.2 ++ head)
    (once : OneCall engine id campaign target channel before after head)
    (more : Calls engine id campaign target rest middle after calls)
    (sustains : Sustains id before middle)
    (cooldowns : middle.store.cooldowns = before.store.cooldowns)
    (serves : Serves campaign target (channel :: rest) tally delivered rows total served)
    (logged : after.store.messages = before.store.messages ++ rows) :
    Calls engine id campaign target (channel :: rest) before after (head ++ calls) := by
  have amid : ∀ earlier incident later, calls = earlier ++ incident :: later →
      incident.Within id before after ∧
        Attempts engine campaign target (channel :: rest) after.store.messages incident later := by
    intro earlier incident later split
    obtain ⟨within, attempts⟩ := more.amid earlier incident later split
    exact ⟨within.since sustains cooldowns, attempts.behind channel⟩
  refine ⟨by rw [more.noted, noted, List.append_assoc], ?_, ?_⟩
  · cases once with
    | none => exact .silent more.follows
    | one isFor => exact .asked isFor more.follows
  · intro earlier incident later split
    cases once with
    | none => exact amid earlier incident later split
    | one isFor within log =>
      cases earlier with
      | nil =>
        cases split
        exact ⟨within, [], channel, rest, rows, rfl, isFor, more.follows, by rw [logged, log],
          serves.rows_about⟩
      | cons other earlier => exact amid earlier incident later (List.cons.inj split).2

variable (attended : engine.Attended id)

include attended

/-- A noted call sustains what the call does. -/
theorem reaches_sustains :
    (engine.recording Incident.mk).Reaches (Sustains id : Watched σ α → Watched σ α → Prop) where
  message := Send.message_moves (fun request world => (attended.exchange request world.plain).sustains)
    (fun _ _ => .of_eq rfl) fun _ _ => .of_eq rfl
  cooldown := record_moves fun _ _ => .of_eq rfl

theorem keepsLedgers_recording : KeepsLedgers (engine.recording Incident.mk) where
  log request world := (attended.exchange request world.plain).agrees fun _ _ => rfl
  cooldowns request world := (attended.exchange request world.plain).agrees fun _ _ => rfl

theorem serve_calls (campaign : Campaign α) (isTest : Bool) (target : TargetRecord)
    (channels : List Channel) (tally : Tally) (delivered : Bool) (world : Watched σ α) :
    Leads (serve (engine.recording Incident.mk) campaign isTest target channels tally delivered)
      world fun _ after => ∃ calls, Calls engine id campaign target channels world after calls := by
  induction channels generalizing tally delivered world with
  | nil => exact ⟨[], .nothing campaign target [] world⟩
  | cons channel rest ih =>
    have keeps := keepsLedgers_recording attended
    have sustains := reaches_sustains attended
    -- The rows of the call are those of all the channels that are left when it is made.
    suffices parts : Leads (serve (engine.recording Incident.mk) campaign isTest target
        (channel :: rest) tally delivered) world fun _ after => ∃ middle head calls,
          middle.outside.2 = world.outside.2 ++ head ∧
          OneCall engine id campaign target channel world after head ∧
          Calls engine id campaign target rest middle after calls ∧ Sustains id world middle ∧
          middle.store.cooldowns = world.store.cooldowns by
      refine ((serve_leads keeps.log campaign isTest target (channel :: rest) tally delivered
        world).and parts).mono ?_
      rintro result after ⟨⟨rows, serves, logged⟩, middle, head, calls, noted, once, more, lives, cool⟩
      exact ⟨_, .cons noted once more lives cool serves logged⟩
    rw [serve, leads_bind]
    refine (Leads.and (message_calls id campaign isTest target channel world)
      (((sustains.message campaign isTest target channel).leads world).and
        ((Send.message_moves keeps.cooldowns (fun _ _ => rfl) (fun _ _ => rfl) campaign isTest
          target channel).leads world))).mono ?_
    rintro (failure | sent) middle ⟨⟨head, noted, once⟩, lives, cool⟩
    · cases failure <;> exact
        ⟨middle, head, [], noted, once, .nothing campaign target rest middle, lives, cool⟩
    · dsimp only
      cases tally.record channel sent with
      | error failure =>
        exact ⟨middle, head, [], noted, once, .nothing campaign target rest middle, lives, cool⟩
      | ok counted =>
        refine ((ih counted (sent.isSuccess || delivered) middle).and ((serve_moves
          (sustains.message campaign isTest target) rest counted _).leads middle)).mono ?_
        rintro result after ⟨⟨calls, more⟩, on⟩
        exact ⟨middle, head, calls, noted, once.on on, more, lives, cool⟩

/-! ## One visit -/

/-- The visit of a target calls for no other target, and for none at all if the campaign has been
cancelled before it. -/
theorem visit_calls (campaign : Campaign α) (isTest : Bool) (excluded : List Int)
    (progress : Progress) (target : TargetRecord) (world : Watched σ α) :
    Leads (visit (engine.recording Incident.mk) campaign isTest excluded progress target) world
      fun _ after => (world.status? campaign.id = some .cancelled → after = world) ∧
        ∃ calls, Calls engine id campaign target (channelsFor campaign.reach target) world after
          calls := by
  have nothing : Calls engine id campaign target (channelsFor campaign.reach target) world world [] :=
    .nothing campaign target _ world
  rw [visit, leads_bind]
  refine Leads.mono (Lifecycle.status?_found campaign.id world) ?_
  rintro (failure | status) middle ⟨rfl, found⟩
  · exact ⟨fun _ => rfl, [], nothing⟩
  · obtain rfl := found status rfl
    dsimp only
    split
    · exact ⟨fun _ => rfl, [], nothing⟩
    · rename_i going
      have going : middle.status? campaign.id ≠ some .cancelled := by simpa using going
      split
      · exact ⟨fun _ => rfl, [], nothing⟩
      · split
        · exact ⟨fun _ => rfl, [], nothing⟩
        · rw [leads_bind]
          refine (serve_calls attended campaign isTest target _ _ _ middle).mono ?_
          rintro ⟨tally, served⟩ later ⟨calls, made⟩
          have still : Moves (Agree fun world : Watched σ α =>
              (world.outside, world.store.messages, world.store.life? id)) (afterTarget campaign target
                { progress with eligible := progress.eligible + 1, tally } served) :=
            afterTarget_moves (record_moves (fun _ _ => rfl) _ _ _ _) _ served
          refine (still.leads later).mono fun _ after same => ?_
          have same : _ = (later.outside, later.store.messages, later.store.life? id) := same
          simp only [Prod.mk.injEq] at same
          exact ⟨fun cancelled => absurd cancelled going, calls,
            made.on same.1 same.2.1 (.of_eq same.2.2)⟩

end Pass

end Herald
