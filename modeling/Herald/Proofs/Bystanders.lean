import Herald.Proofs.Endings
import Herald.Proofs.Senders

/-! # Bystanders

Two passes whose messages to one target end differently leave worlds that differ in what is stored
of that target, in balances and in sums. `DiffersAt` says that they differ in no more than that: for
all other targets the same has been logged, and the same has been asked of providers. Every access
of a pass to the tables keeps worlds so, and so does a message, whatever its outcome in either pass.
-/

namespace Herald

variable {α : Type}

/-- A target of a campaign. -/
structure Addressee where
  campaign : Int
  target : String
  targetId : Int

/-! ## What is left out of the comparison -/

/-- A row of the log without what became of its message. -/
def Message.unanswered [Amount α] (row : Message α) : Message α :=
  { row with
    status := .failed, cost := Amount.zero, providerCost := none, providerId := none, error := none
    sentAt := none }

/-- Two rows of the same message, which may have ended differently if it was for one target. -/
structure Message.Beside [Amount α] (targetId : Int) (row other : Message α) : Prop where
  unanswered_eq : other.unanswered = row.unanswered
  eq_of_ne : row.targetId ≠ targetId → other = row

/-- A campaign without what its passes have added up. -/
def Campaign.unsummed [Amount α] (campaign : Campaign α) : Campaign α :=
  { campaign with sms := .none, email := .none }

/-- A cooldown without its number. -/
def Cooldown.unnumbered (row : Cooldown) : Cooldown := { row with id := 0 }

/-- The cooldowns of all others, without their numbers. -/
def CooldownLedger.apartFrom (addressee : Addressee) (rows : List Cooldown) : List Cooldown :=
  (rows.filter fun row =>
    !isFor addressee.campaign addressee.target addressee.targetId row).map Cooldown.unnumbered

/-- The tables but log and balances, with campaigns unsummed and the cooldowns of all others. -/
def Store.apartFrom [Amount α] (addressee : Addressee) (store : Store α) : Store α :=
  { store with
    campaigns := store.campaigns.map Campaign.unsummed, messages := []
    cooldowns := CooldownLedger.apartFrom addressee store.cooldowns, balances := [] }

/-! ## Rows -/

section Rows

variable [Amount α] {targetId : Int}

theorem Message.Beside.refl (row : Message α) : row.Beside targetId row := ⟨rfl, fun _ => rfl⟩

theorem Message.Beside.id_eq {row other : Message α} (beside : row.Beside targetId other) :
    other.id = row.id :=
  (congrArg Message.id beside.unanswered_eq : other.unanswered.id = row.unanswered.id)

theorem Message.Beside.targetId_eq {row other : Message α} (beside : row.Beside targetId other) :
    other.targetId = row.targetId :=
  (congrArg Message.targetId beside.unanswered_eq :
    other.unanswered.targetId = row.unanswered.targetId)

theorem Message.forall₂_beside (rows : List (Message α)) :
    List.Forall₂ (Message.Beside targetId) rows rows :=
  List.forall₂_same.mpr fun row _ => .refl row

/-- Rows of the same messages have the same ids. -/
theorem Message.ids_of_beside {rows rows' : List (Message α)}
    (beside : List.Forall₂ (Message.Beside targetId) rows rows') :
    rows'.map Message.id = rows.map Message.id := by
  induction beside with
  | nil => rfl
  | cons head _ ih => rw [List.map_cons, List.map_cons, head.id_eq, ih]

omit [Amount α] in
theorem spent_cons (row : Message Exact) (rows : List (Message Exact)) (tenant : String) :
    spent (row :: rows) tenant = spent [row] tenant + spent rows tenant :=
  spent_append [row] rows tenant

/-- What is paid for all others is the same. -/
theorem spent_of_beside {rows rows' : List (Message Exact)}
    (beside : List.Forall₂ (Message.Beside targetId) rows rows') (tenant : String) :
    spent rows' tenant + spent (rows.filter fun row => row.targetId == targetId) tenant =
      spent rows tenant + spent (rows'.filter fun row => row.targetId == targetId) tenant := by
  induction beside with
  | nil => rfl
  | @cons row row' rows rows' head _ ih =>
    rw [spent_cons row', spent_cons row, List.filter_cons, List.filter_cons, head.targetId_eq]
    by_cases same : row.targetId = targetId
    · rw [same, beq_self_eq_true, if_pos rfl, if_pos rfl, spent_cons row (rows.filter _),
        spent_cons row' (rows'.filter _)]
      linarith
    · rw [beq_false_of_ne same, if_neg Bool.false_ne_true, if_neg Bool.false_ne_true,
        head.eq_of_ne same]
      linarith

end Rows

/-! ## Cooldowns -/

namespace CooldownLedger

variable {addressee : Addressee} {campaign targetId : Int} {target : String}

/-- A row that is recorded again if it is about a target. -/
def moved (campaign : Int) (target : String) (targetId : Int) (now : Moment) (row : Cooldown) :
    Cooldown :=
  if isFor campaign target targetId row then { row with sentAt := now } else row

theorem isFor_moved {other otherId : Int} {kind : String} (now : Moment) (row : Cooldown) :
    isFor other kind otherId (moved campaign target targetId now row) =
      isFor other kind otherId row := by
  unfold moved
  split <;> rfl

theorem unnumbered_moved (now : Moment) (row : Cooldown) :
    (moved campaign target targetId now row).unnumbered =
      moved campaign target targetId now row.unnumbered := by
  unfold moved
  rw [apply_ite Cooldown.unnumbered]
  rfl

theorem apartFrom_map_moved (rows : List Cooldown) (now : Moment) :
    apartFrom addressee (rows.map (moved campaign target targetId now)) =
      (apartFrom addressee rows).map (moved campaign target targetId now) := by
  simp only [apartFrom, List.filter_map, Function.comp_def, isFor_moved, List.map_map,
    unnumbered_moved]

/-- Who is recorded again is left out as before. -/
theorem apartFrom_map_moved_self (rows : List Cooldown) (now : Moment) :
    apartFrom addressee (rows.map (moved addressee.campaign addressee.target addressee.targetId now)) =
      apartFrom addressee rows := by
  rw [apartFrom_map_moved]
  refine (List.map_congr_left fun row member => ?_).trans (List.map_id _)
  obtain ⟨old, kept, rfl⟩ := List.mem_map.mp member
  have other := (List.mem_filter.mp kept).2
  rw [← unnumbered_moved, moved, if_neg (by simpa using other)]
  rfl

theorem apartFrom_append (rows : List Cooldown) (row : Cooldown) :
    apartFrom addressee (rows ++ [row]) = apartFrom addressee rows ++
      if isFor addressee.campaign addressee.target addressee.targetId row then []
      else [row.unnumbered] := by
  rw [apartFrom, List.filter_append, List.map_append, apartFrom, List.filter_singleton]
  cases isFor addressee.campaign addressee.target addressee.targetId row <;> rfl

section Other

variable (other : (campaign, target, targetId) ≠
  (addressee.campaign, addressee.target, addressee.targetId))

include other

theorem not_isFor_of_ne {row : Cooldown} (about : isFor campaign target targetId row = true) :
    isFor addressee.campaign addressee.target addressee.targetId row = false := by
  simp only [isFor, Bool.and_eq_true, beq_iff_eq] at about
  obtain ⟨⟨rfl, rfl⟩, rfl⟩ := about
  simpa [isFor, Prod.mk.injEq] using other

/-- Who is recorded among all others is found among them. -/
theorem any_apartFrom (rows : List Cooldown) :
    (apartFrom addressee rows).any (isFor campaign target targetId) =
      rows.any (isFor campaign target targetId) := by
  rw [apartFrom, List.any_map, List.any_filter]
  refine congrArg rows.any (funext fun row => ?_)
  change (!isFor _ _ _ row && isFor campaign target targetId row) = isFor campaign target targetId row
  cases about : isFor campaign target targetId row with
  | false => exact Bool.and_false _
  | true => rw [not_isFor_of_ne other about]; rfl

end Other

end CooldownLedger

namespace Store

variable [Amount α] {addressee : Addressee} {tenant : String} {now : Moment}

/-- Recording a target leaves all others alone. -/
theorem apartFrom_recordIn (store : Store α) :
    (CooldownLedger.recordIn addressee.campaign addressee.target addressee.targetId tenant now
      store).apartFrom addressee = store.apartFrom addressee := by
  unfold CooldownLedger.recordIn
  split
  · exact congrArg (fun cooldowns => { store.apartFrom addressee with cooldowns })
      (CooldownLedger.apartFrom_map_moved_self store.cooldowns now)
  · refine congrArg (fun cooldowns => { store.apartFrom addressee with cooldowns }) ?_
    rw [CooldownLedger.apartFrom_append, if_pos (by simp [CooldownLedger.isFor]), List.append_nil]

/-- Recording one of the others shows without the target as it does with it. -/
theorem apartFrom_recordIn_of_ne {campaign targetId : Int} {target : String}
    (other : (campaign, target, targetId) ≠
      (addressee.campaign, addressee.target, addressee.targetId)) (store : Store α) :
    (CooldownLedger.recordIn campaign target targetId tenant now store).apartFrom addressee =
      { store.apartFrom addressee with
        cooldowns := if (store.apartFrom addressee).cooldowns.any
            (CooldownLedger.isFor campaign target targetId) then
          (store.apartFrom addressee).cooldowns.map (CooldownLedger.moved campaign target targetId now)
        else (store.apartFrom addressee).cooldowns ++
          [⟨0, tenant, campaign, target, targetId, now, now⟩] } := by
  unfold CooldownLedger.recordIn
  rw [show (store.apartFrom addressee).cooldowns = CooldownLedger.apartFrom addressee store.cooldowns
    from rfl, CooldownLedger.any_apartFrom other]
  split
  · exact congrArg (fun cooldowns => { store.apartFrom addressee with cooldowns })
      (CooldownLedger.apartFrom_map_moved store.cooldowns now)
  · refine congrArg (fun cooldowns => { store.apartFrom addressee with cooldowns }) ?_
    rw [CooldownLedger.apartFrom_append, CooldownLedger.not_isFor_of_ne other
      (by simp [CooldownLedger.isFor])]
    rfl

end Store

/-! ## Worlds that differ in one target -/

/-- Two passes that have come equally far from the same tables, and differ in what has become of the
messages to one target. -/
structure DiffersAt (addressee : Addressee) (before : Store Exact)
    (first second : World (List Request) Exact) : Prop where
  now_eq : second.now = first.now
  outside_eq : second.outside = first.outside
  apartFrom_eq : second.store.apartFrom addressee = first.store.apartFrom addressee
  grown : Grown 0 before first.store
  grown' : Grown 0 before second.store
  logged : ∃ rows rows', first.store.messages = before.messages ++ rows ∧
    second.store.messages = before.messages ++ rows' ∧
      List.Forall₂ (Message.Beside addressee.targetId) rows rows'

namespace DiffersAt

variable {addressee : Addressee} {before : Store Exact}
  {first second : World (List Request) Exact}

theorem refl (grown : Grown 0 before first.store) : DiffersAt addressee before first first where
  now_eq := rfl
  outside_eq := rfl
  apartFrom_eq := rfl
  grown := grown
  grown' := grown
  logged := by
    obtain ⟨rows, logged⟩ := grown.logged
    exact ⟨rows, rows, logged.symm, logged.symm, Message.forall₂_beside rows⟩

theorem shows :
    Shows (Store.apartFrom addressee) Campaign.unsummed (DiffersAt addressee before) where
  created _ := rfl
  targets _ kind := by cases kind <;> rfl
  campaigns _ _ := rfl
  id _ := rfl
  status _ := rfl
  now_eq differs := differs.now_eq
  view_eq differs := differs.apartFrom_eq
  put differs same books books' := by
    have keeps : ∀ {store old : Store Exact}, store.books = old.books → Grown 0 before old →
        store.messages = old.messages ∧ Grown 0 before store := by
      intro store old books grown
      obtain ⟨created, messages, balances⟩ := by simpa only [Store.books, Prod.mk.injEq] using books
      exact ⟨messages, by
        simpa only [add_zero] using grown.trans (.of_books grown.sound created balances messages)⟩
    obtain ⟨messages, grown⟩ := keeps books differs.grown
    obtain ⟨messages', grown'⟩ := keeps books' differs.grown'
    obtain ⟨rows, rows', logged, logged', beside⟩ := differs.logged
    exact ⟨differs.now_eq, differs.outside_eq, same, grown, grown', rows, rows',
      messages.trans logged, messages'.trans logged', beside⟩

variable (differs : DiffersAt addressee before first second)

include differs

/-- The next row of the log gets the same id. -/
theorem nextId_eq : nextId (second.store.messages.map Message.id) =
    nextId (first.store.messages.map Message.id) := by
  obtain ⟨rows, rows', logged, logged', beside⟩ := differs.logged
  rw [logged, logged', List.map_append, List.map_append, Message.ids_of_beside beside]

/-- What is left of the tenants differs by what the target has been charged. -/
theorem charged_eq : ∃ rows rows', first.store.messages = before.messages ++ rows ∧
    second.store.messages = before.messages ++ rows' ∧
      List.Forall₂ (Message.Beside addressee.targetId) rows rows' ∧ ∀ tenant,
        balanceOf second.store tenant - balanceOf first.store tenant =
          spent (rows.filter fun row => row.targetId == addressee.targetId) tenant -
            spent (rows'.filter fun row => row.targetId == addressee.targetId) tenant := by
  obtain ⟨rows, rows', logged, logged', beside⟩ := differs.logged
  refine ⟨rows, rows', logged, logged', beside, fun tenant => ?_⟩
  have paid := differs.grown.funds_eq tenant
  have paid' := differs.grown'.funds_eq tenant
  have others := spent_of_beside beside tenant
  simp only [funds, logged, logged', spent_append, Pi.zero_apply, add_zero] at paid paid'
  linarith

/-- Rows of the same messages are logged, whatever else has happened to balances. -/
theorem log {asked : List Request} {rows rows' : List (Message Exact)}
    (beside : List.Forall₂ (Message.Beside addressee.targetId) rows rows')
    {after after' : World (List Request) Exact} (leaves : ∃ balances, after = { first with
      outside := first.outside ++ asked
      store := { first.store with messages := first.store.messages ++ rows, balances } })
    (leaves' : ∃ balances, after' = { second with
      outside := second.outside ++ asked
      store := { second.store with messages := second.store.messages ++ rows', balances } })
    (grown : Grown 0 first.store after.store) (grown' : Grown 0 second.store after'.store) :
    DiffersAt addressee before after after' := by
  obtain ⟨balances, rfl⟩ := leaves
  obtain ⟨balances', rfl⟩ := leaves'
  obtain ⟨old, old', logged, logged', apartFrom⟩ := differs.logged
  refine ⟨differs.now_eq, ?_, differs.apartFrom_eq, ?_, ?_, old ++ rows, old' ++ rows', ?_, ?_,
    List.rel_append apartFrom beside⟩
  · exact congrArg (· ++ asked) differs.outside_eq
  · simpa only [add_zero] using differs.grown.trans grown
  · simpa only [add_zero] using differs.grown'.trans grown'
  · exact (congrArg (· ++ rows) logged).trans (List.append_assoc ..)
  · exact (congrArg (· ++ rows') logged').trans (List.append_assoc ..)

end DiffersAt

/-! ## Messages whose outcomes may differ -/

/-- A reply that ends the message it replies to, which may have gone out, been rejected or failed on
its way to the provider. -/
def Engine.Hears {σ : Type} (engine : Engine σ α) (request : Request) (reply : Reply) : Prop :=
  ∀ channel outgoing, Send.request engine channel outgoing = .ok request →
    ∃ outcome, Send.concluded ((engine.provider channel).outcome reply) = .ok outcome

/-- Two ways of replying to a request for a target, behind some other ones, that are the same except
for one target, whose message either of them ends. -/
def Replies.DifferFor (replies replies' : Replies) {σ : Type} (engine : Engine σ α)
    (targetId own : Int) (history : List Request) (request : Request) : Prop :=
  if own = targetId then
    engine.Hears request (replies history request) ∧
      engine.Hears request (replies' history request)
  else replies' history request = replies history request

/-- Two ways of replying to what is requested for a target, from some requests to all requests
behind it, that are the same except for one target. -/
def Replies.DifferOver (replies replies' : Replies) {σ : Type} (engine : Engine σ α)
    (targetId own : Int) (earlier later : List Request) : Prop :=
  ∀ asked request rest, later = earlier ++ asked ++ request :: rest →
    replies.DifferFor replies' engine targetId own (earlier ++ asked) request

/-- What holds over some requests holds over the later ones among them. -/
theorem Replies.DifferOver.later {replies replies' : Replies} {σ : Type} {engine : Engine σ α}
    {targetId own : Int} {earlier middle later : List Request}
    (differ : replies.DifferOver replies' engine targetId own earlier later)
    (before : earlier <+: middle) : replies.DifferOver replies' engine targetId own middle later := by
  obtain ⟨between, rfl⟩ := before
  intro asked request rest same
  rw [List.append_assoc]
  exact differ (between ++ asked) request rest (by rw [same, ← List.append_assoc earlier])

/-- What holds over some requests holds over the earlier ones among them. -/
theorem Replies.DifferOver.earlier {replies replies' : Replies} {σ : Type} {engine : Engine σ α}
    {targetId own : Int} {earlier middle later : List Request}
    (differ : replies.DifferOver replies' engine targetId own earlier later)
    (behind : middle <+: later) : replies.DifferOver replies' engine targetId own earlier middle := by
  obtain ⟨rest, rfl⟩ := behind
  rintro asked request between rfl
  exact differ asked request (between ++ rest) (by rw [List.append_assoc, List.cons_append])

namespace Send

/-- What comes of the same message to a target in both passes. -/
structure Told.Beside (targetId own : Int) (told told' : Told) : Prop where
  asked_eq : told'.asked = told.asked
  rows : List.Forall₂ (Message.Beside targetId) told.rows told'.rows
  results : BothEnd (fun sent sent' => own ≠ targetId → sent' = sent) told.result told'.result

theorem Told.Beside.refl {targetId own : Int} (told : Told) : told.Beside targetId own told where
  asked_eq := rfl
  rows := Message.forall₂_beside told.rows
  results := by
    cases told.result with
    | ok sent => exact .ok fun _ => rfl
    | error failure => exact .error failure

theorem rowOf_beside {targetId : Int} {blank : Message Exact} (own : blank.targetId = targetId)
    (cost : Decimal) (outcome outcome' : Outcome) (now : Moment) :
    (rowOf blank cost outcome now).Beside targetId (rowOf blank cost outcome' now) := by
  have same : ∀ outcome, (rowOf blank cost outcome now).unanswered = blank.unanswered ∧
      (rowOf blank cost outcome now).targetId = blank.targetId := by
    intro outcome
    unfold rowOf
    split <;> exact ⟨rfl, rfl⟩
  exact ⟨(same outcome').1.trans (same outcome).1.symm,
    fun other => absurd ((same outcome).2.trans own) other⟩

section Both

variable {engine : Engine (List Request) Exact} {replies replies' : Replies}
  {campaign : Campaign Exact} {target : TargetRecord} {channel : Channel} {targetId : Int}
  {now : Moment} {id : Int} {history : List Request}

theorem tellLive_beside {own : Int} {amount : Decimal} {outgoing : Outgoing}
    {blank : Message Exact} (about : blank.targetId = own) (agree : ∀ request ∈
      (tellLive engine replies channel amount outgoing blank now history).asked,
        replies.DifferFor replies' engine targetId own history request) :
    (tellLive engine replies channel amount outgoing blank now history).Beside targetId own
      (tellLive engine replies' channel amount outgoing blank now history) := by
  unfold tellLive heard at agree ⊢
  cases charges : chargeable amount with
  | error failure => exact .refl _
  | ok cost =>
    cases requests : request engine channel outgoing with
    | error failure => exact .refl _
    | ok request =>
      rw [charges, requests] at agree
      dsimp only [Except.bind, Except.toOption] at agree ⊢
      have agree : replies.DifferFor replies' engine targetId own history request := by
        refine agree request ?_
        cases concluded ((engine.provider channel).outcome (replies history request)) <;> rfl
      unfold Replies.DifferFor at agree
      split at agree
      · rename_i same
        obtain ⟨outcome, hears⟩ := agree.1 channel outgoing requests
        obtain ⟨outcome', hears'⟩ := agree.2 channel outgoing requests
        rw [hears, hears']
        exact ⟨rfl, .cons (rowOf_beside (about.trans same) cost outcome outcome' now) .nil,
          .ok fun other => absurd same other⟩
      · rw [agree]
        exact .refl _

/-- Where replies differ for one target only, so does what comes of a message. -/
theorem tell_beside (agree : ∀ request ∈
      (tell engine replies campaign target channel now id history).asked,
        replies.DifferFor replies' engine targetId target.id history request) :
    (tell engine replies campaign target channel now id history).Beside targetId target.id
      (tell engine replies' campaign target channel now id history) := by
  unfold tell at agree ⊢
  cases composes : Composed.of engine.settings campaign.content target.attributes channel with
  | error failure => exact .refl _
  | ok composed =>
    rw [composes] at agree
    exact tellLive_beside (by exact rfl) agree

variable {addressee : Addressee} {before : Store Exact}
  {first second : World (List Request) Exact}

variable (replies replies') in
/-- A message that both passes can pay for is paid for by both, and leaves them as far apart as they
have been. -/
theorem message_beside (live : engine.settings.testMode = false)
    (differs : DiffersAt addressee before first second)
    (covers : due engine.settings campaign target channel ≤
      balanceOf first.store campaign.tenant)
    (covers' : due engine.settings campaign target channel ≤
      balanceOf second.store campaign.tenant) :
    Ends (message (engine.replying replies).toEngine campaign false target channel) first
      fun result after =>
        Ends (message (engine.replying replies').toEngine campaign false target channel) second
          fun result' after' =>
            Pays (due engine.settings campaign target channel) campaign.tenant first.store result
              after.store ∧
            Pays (due engine.settings campaign target channel) campaign.tenant second.store result'
              after'.store ∧
            (replies.DifferOver replies' engine addressee.targetId target.id first.outside
                after.outside →
              BothEnd (fun sent sent' => target.id ≠ addressee.targetId → sent' = sent) result
                result' ∧ DiffersAt addressee before after after') := by
  refine ((message_tells engine replies live differs.grown.sound covers).and
    (message_pays engine replies live differs.grown.sound covers)).mono ?_
  rintro _ after ⟨⟨rfl, leaves⟩, pays⟩
  refine ((message_tells engine replies' live differs.grown'.sound covers').and
    (message_pays engine replies' live differs.grown'.sound covers')).mono ?_
  rintro _ after' ⟨⟨rfl, leaves'⟩, pays'⟩
  refine ⟨pays, pays', fun agree => ?_⟩
  have same : tell engine replies' campaign target channel second.now
      (nextId (second.store.messages.map Message.id)) second.outside =
        tell engine replies' campaign target channel first.now
          (nextId (first.store.messages.map Message.id)) first.outside := by
    rw [differs.now_eq, differs.nextId_eq, differs.outside_eq]
  rw [same] at leaves' ⊢
  have beside : (tell engine replies campaign target channel first.now
      (nextId (first.store.messages.map Message.id)) first.outside).Beside addressee.targetId
        target.id (tell engine replies' campaign target channel first.now
          (nextId (first.store.messages.map Message.id)) first.outside) := by
    refine tell_beside fun request asks => ?_
    obtain ⟨balances, rfl⟩ := leaves
    have agree := agree [] request []
    rw [List.append_nil] at agree
    exact agree (by rw [Option.mem_def.mp asks]; rfl)
  rw [Told.Leaves, beside.asked_eq] at leaves'
  exact ⟨beside.results, differs.log beside.rows leaves leaves' pays.grown pays'.grown⟩

end Both

end Send

end Herald
