import Herald.Proofs.Aggregates

/-! # Reconciliation

Between two events the aggregates of every campaign are what its messages in the log come to. A
campaign starts without messages, a pass adds the same to both, and nothing else writes either of
them. That decimals count exactly what a pass spends follows from the balances, which therefore have
to stay countable.
-/

namespace Herald

variable {σ : Type}

/-- The messages of a campaign. -/
def Store.messagesOf (store : Store Exact) (id : Int) : List (Message Exact) :=
  store.messages.filter fun row => row.campaign == id

/-- Balances that have never held more than decimals count exactly. That is far more than a column
of money with twelve digits holds. -/
def Store.Countable (store : Store Exact) : Prop :=
  ∀ row ∈ store.balances, ∀ value ∈ row.amount.held, value < Decimal.countable / 100

namespace Store.Countable

variable {before after : Store Exact}

theorem balanceOf_lt (countable : before.Countable) (tenant : String) :
    balanceOf before tenant < Decimal.countable / 100 := by
  unfold balanceOf
  cases found : BalanceLedger.row? before tenant with
  | none => norm_num [Decimal.countable, Decimal.precision]
  | some row =>
    exact countable row (List.mem_of_find?_eq_some found) _ (List.mem_cons_self ..)

/-- A balance that is countable now always was. -/
theorem of_remembered (countable : after.Countable)
    (remembered : Remembered before.balances after.balances) : before.Countable := by
  intro row member value held
  obtain ⟨later, there, _, more⟩ := remembered row member
  exact countable later there value (more.subset held)

end Store.Countable

/-- A store whose aggregates are what its log comes to. -/
structure Reconciled (store : Store Exact) : Prop where
  reaching : Reaching store
  cents : store.InCents
  shows : ∀ id sums, store.sums? id = some sums → ∀ channel,
    (sums channel).Shows (.of (onChannel channel (store.messagesOf id)))

namespace Reconciled

variable {before after : Store Exact}

theorem of_sums (reconciled : Reconciled before) (reaching : Reaching after)
    (sums : after.sums? = before.sums?) (messages : after.messages = before.messages) :
    Reconciled after where
  reaching := reaching
  cents := reconciled.cents.of_messages messages
  shows id found same := by
    rw [Store.messagesOf, messages]
    exact reconciled.shows id found (sums ▸ same)

theorem of_records (reconciled : Reconciled before) (orderly : Orderly after)
    (same : after.records = before.records) : Reconciled after := by
  have campaigns : after.campaigns = before.campaigns := congrArg Prod.fst same
  refine reconciled.of_sums (reconciled.reaching.of_records orderly same) ?_
    (congrArg Prod.snd same)
  funext id
  simp only [Store.sums?, Store.campaign?, campaigns]

/-- Rows that are added to the log and counted in the aggregates keep them reconciled. -/
theorem added (reconciled : Reconciled before) (reaching : Reaching after) (cents : after.InCents)
    {id : Int} {rows : List (Message Exact)} {tally : Tally}
    (logged : after.messages = before.messages ++ rows) (own : ∀ row ∈ rows, row.campaign = id)
    (counts : tally.Counts rows) (added : Added id tally before after) : Reconciled after where
  reaching := reaching
  cents := cents
  shows other new found channel := by
    have related := added other
    rw [found] at related
    cases stood : before.sums? other with
    | none =>
      rw [stood] at related
      cases related
    | some old =>
      rw [stood] at related
      have shows := reconciled.shows other old stood channel
      cases related with
      | some related =>
        by_cases same : other = id
        · have more : after.messagesOf other = before.messagesOf other ++ rows := by
            have all : rows.filter (fun row => row.campaign == other) = rows :=
              List.filter_eq_self.mpr fun row member => beq_iff_eq.mpr (same ▸ own row member)
            rw [Store.messagesOf, logged, List.filter_append, all]
            rfl
          rw [if_pos same] at related
          rw [more, onChannel_append, Totals.of_append]
          exact (shows.add (counts channel) (related channel)).1
        · have others : after.messagesOf other = before.messagesOf other := by
            have none : rows.filter (fun row => row.campaign == other) = [] :=
              List.filter_eq_nil_iff.mpr fun row member => by
                rw [own row member, beq_iff_eq]
                exact Ne.symm same
            rw [Store.messagesOf, logged, List.filter_append, none, List.append_nil]
            rfl
          rw [if_neg same] at related
          rw [others, related]
          exact shows

/-- A new campaign has sent nothing. -/
theorem create {store : Store Exact} (reconciled : Reconciled store) (tenant : String)
    (now : Moment) (draft : Draft) :
    Reconciled { store with campaigns := store.campaigns ++
      [Campaign.ofDraft (nextId (store.campaigns.map Campaign.id)) tenant now draft] } where
  reaching := reconciled.reaching.create tenant now draft
  cents := reconciled.cents
  shows id sums found channel := by
    obtain ⟨campaign, there, rfl⟩ := Option.map_eq_some_iff.mp found
    simp only [Store.campaign?, List.find?_append] at there
    cases old : store.campaign? id with
    | some before =>
      have same : some before = some campaign := by
        rw [← there, ← Store.campaign?, old, Option.some_or]
      cases same
      exact reconciled.shows id _ (by rw [Store.sums?, old, Option.map_some]) channel
    | none =>
      rw [← Store.campaign?, old, Option.none_or] at there
      obtain rfl := List.mem_singleton.mp (List.mem_of_find?_eq_some there)
      have none : store.messagesOf id = [] := by
        refine List.filter_eq_nil_iff.mpr fun row member same => ?_
        have known := reconciled.reaching.known row member
        rw [beq_iff_eq.mp same, old] at known
        exact Bool.false_ne_true known
      have blank : (Campaign.ofDraft (nextId (store.campaigns.map Campaign.id)) tenant now
          draft).sums channel = (.none : Aggregates Exact) := by
        cases channel <;> rfl
      change (Campaign.sums _ channel).Shows (.of (onChannel channel (store.messagesOf id)))
      rw [none, blank]
      exact Aggregates.shows_none

end Reconciled

/-! ## From event to event -/

/-- What is done to reconciled tables leaves them reconciled, if the balances stay countable. -/
structure Accounts (before after : Store Exact) : Prop where
  sound : Sound after
  remembered : Remembered before.balances after.balances
  reconciled : after.Countable → Reconciled before → Reconciled after

/-- What lies between two worlds accounts for all that it does. -/
def Accounted (before after : World σ Exact) : Prop :=
  Sound before.store → Accounts before.store after.store

instance : IsPreorder (World σ Exact) Accounted where
  refl _ sound := ⟨sound, .refl _, fun _ reconciled => reconciled⟩
  trans _ _ _ first second sound := by
    have left := first sound
    have right := second left.sound
    refine ⟨right.sound, left.remembered.trans right.remembered, fun countable reconciled => ?_⟩
    have middle := countable.of_remembered right.remembered
    exact right.reconciled countable (left.reconciled middle reconciled)

theorem Funded.accounted {gain : String → ℚ} {before after : World σ Exact}
    (funded : Funded gain before after)
    (keeps : Reconciled before.store → Reconciled after.store) : Accounted before after :=
  fun sound => ⟨(funded sound).sound, (funded sound).remembered, fun _ => keeps⟩

theorem accounted_allows : Lifecycle.Allows (Accounted : World σ Exact → World σ Exact → Prop) := by
  intro world id condition change keeps
  refine (funded_allows world id condition change keeps).accounted fun reconciled => ?_
  exact reconciled.of_sums
    (History.respects_reaching.life world id condition change keeps reconciled.reaching)
    (OperatedEngine.sums_allows world id condition change keeps) rfl

/-- A pass adds the same to the log and to the aggregates. -/
theorem execute_accounted (engine : OperatedEngine σ Exact) (prices : engine.settings.InCents)
    (id : Int) : Moves Accounted (Pass.execute engine.toEngine id).run := by
  intro world sound
  have grown : Grown 0 world.store _ := Pass.execute_moves engine.respects_funded id world sound
  refine ⟨grown.sound, grown.remembered, fun countable reconciled => ?_⟩
  have few := (countable.of_remembered grown.remembered).balanceOf_lt
  obtain ⟨rows, tally, logged, own, counts, added, _⟩ :=
    Pass.execute_added prices id sound reconciled.cents few
  exact reconciled.added (History.respects_reaching.pass engine id world reconciled.reaching)
    (Pass.execute_moves (engine.respects_inCents prices) id world reconciled.cents)
    logged own counts added

/-- An event whose engine, if it runs one, has prices in whole cents. -/
def Event.InCents : Event σ Exact → Prop
  | .execute engine _ => engine.settings.InCents
  | .tick engine => engine.settings.InCents
  | _ => True

/-- What changes neither campaigns nor log accounts for everything. -/
theorem Event.accounted_of_records {world : World σ Exact} {event : Event σ Exact}
    (same : (event.after world).store.records = world.store.records) :
    Accounted world (event.after world) := by
  refine (Event.funded world event).accounted fun reconciled => reconciled.of_records ?_ same
  have orderly : Keeps Orderly world (event.after world) := by
    refine History.respects_orderly.event world event ?_
    rintro tenant amount rfl
    exact credit_orderly tenant amount world
  exact orderly reconciled.reaching.orderly

theorem Event.accounted (world : World σ Exact) {event : Event σ Exact} (prices : event.InCents) :
    Accounted world (event.after world) := by
  cases event with
  | execute engine id => exact execute_accounted engine prices id world
  | tick engine =>
    exact Scheduler.tick_moves (Lifecycle.expire_moves accounted_allows)
      (execute_accounted engine prices) world
  | expire id now => exact Lifecycle.expire_moves accounted_allows id now world
  | operate action => exact action.moves accounted_allows world
  | create tenant draft =>
    refine Lifecycle.create_moves (fun world now _ => ?_) world
    exact Funded.accounted (funded_of_books ⟨rfl, rfl, rfl⟩) fun reconciled =>
      reconciled.create tenant now draft
  | credit tenant amount =>
    exact Event.accounted_of_records (History.keepsRecords.credit tenant amount world)
  | define tenant target spec =>
    exact Event.accounted_of_records (History.keepsRecords.define tenant target spec world)
  | upsert schema data externalId fields =>
    exact Event.accounted_of_records
      (History.keepsRecords.upsert schema data externalId fields world)
  | cleanup days => exact Event.accounted_of_records (History.keepsRecords.cleanup days world)
  | elapse now outside => exact Event.accounted_of_records rfl

theorem World.accounted (world : World σ Exact) {events : List (Event σ Exact)}
    (prices : ∀ event ∈ events, event.InCents) : Accounted world (world.after events) := by
  induction events generalizing world with
  | nil => exact refl world
  | cons event rest ih =>
    rw [List.forall_mem_cons] at prices
    exact IsTrans.trans _ _ _ (Event.accounted world prices.1) (ih (event.after world) prices.2)

theorem reconciled_empty : Reconciled (Store.empty : Store Exact) where
  reaching := ⟨orderly_empty, List.forall_mem_nil _, fun _ _ _ _ => List.nodup_nil⟩
  cents := List.forall_mem_nil _
  shows _ _ found := by cases found

theorem campaign?_of_mem {store : Store Exact} (orderly : Orderly store)
    {campaign : Campaign Exact} (member : campaign ∈ store.campaigns) :
    store.campaign? campaign.id = some campaign := by
  have ascending : (store.campaigns.map Campaign.id).Pairwise (· < ·) := orderly.campaigns.tail
  exact find?_of_nodup (ascending.imp fun less => ne_of_lt less) member

/-- After any history with prices in whole cents, the aggregates of each campaign are the numbers
and the cost of its messages on that channel, and a pass that returns tells exactly what it has
changed of them. The passes of a tick are among these, because a tick is a history of passes. -/
theorem aggregates_reconciled (now : Moment) (outside : σ) (events : List (Event σ Exact))
    (prices : ∀ event ∈ events, event.InCents)
    (countable : ((World.opened now outside : World σ Exact).after events).store.Countable) :
    let world := (World.opened now outside : World σ Exact).after events
    (∀ campaign ∈ world.store.campaigns, ∀ channel, (campaign.sums channel).Shows
        (.of (onChannel channel (world.store.messagesOf campaign.id)))) ∧
      ∀ (engine : OperatedEngine σ Exact) id result, engine.settings.InCents →
        ((Pass.execute engine.toEngine id).run.run world).1 = .ok result →
          result.campaign = id ∧ ∃ old new, world.store.campaign? id = some old ∧
            (Event.after world (.execute engine id)).store.campaign? id = some new ∧
              ∀ channel, (old.sums channel).Gains (result.tally.channel channel)
                (new.sums channel) := by
  intro world
  have accounts := (World.opened now outside).accounted prices (sound_opened now outside)
  have reconciled : Reconciled world.store := accounts.reconciled countable reconciled_empty
  constructor
  · intro campaign member
    have found := campaign?_of_mem reconciled.reaching.orderly member
    exact reconciled.shows campaign.id campaign.sums (by rw [Store.sums?, found, Option.map_some])
  · intro engine id result prices returned
    obtain ⟨rows, tally, _, _, counts, added, tells⟩ :=
      Pass.execute_added prices id accounts.sound reconciled.cents countable.balanceOf_lt
    obtain ⟨known, campaign_eq, rfl⟩ := tells result returned
    obtain ⟨old, found⟩ := Option.isSome_iff_exists.mp known
    have stood : world.store.sums? id = some old.sums := by
      rw [Store.sums?, found, Option.map_some]
    have related := added id
    rw [stood] at related
    cases after : Store.sums? (Event.after world (.execute engine id)).store id with
    | none =>
      have related : Option.Rel _ (some old.sums) none := after ▸ related
      cases related
    | some sums =>
      have related : Option.Rel _ (some old.sums) (some sums) := after ▸ related
      obtain ⟨new, there, rfl⟩ := Option.map_eq_some_iff.mp after
      refine ⟨campaign_eq, old, new, found, there, fun channel => ?_⟩
      cases related with
      | some related =>
        rw [if_pos rfl] at related
        exact ((reconciled.shows id old.sums stood channel).add (counts channel)
          (related channel)).2

/-- The small history: the campaign has been interrupted and resumed, and its next pass returns. -/
theorem sample_aggregates_reconciled :
    let world : World Unit Exact := Sample.world (Sample.prepared ++ Sample.resumed)
    (∀ campaign ∈ world.store.campaigns, ∀ channel, (campaign.sums channel).Shows
        (.of (onChannel channel (world.store.messagesOf campaign.id)))) ∧
      ∃ result, ((Pass.execute Sample.engine.toEngine 1).run.run world).1 = .ok result ∧
        result.campaign = 1 ∧ ∃ old new, world.store.campaign? 1 = some old ∧
          (Event.after world (.execute Sample.engine 1)).store.campaign? 1 = some new ∧
            ∀ channel, (old.sums channel).Gains (result.tally.channel channel)
              (new.sums channel) := by
  intro world
  have prices : (Sample.engine : OperatedEngine Unit Exact).settings.InCents :=
    ⟨⟨4, Settings.isCents_cents 4⟩, ⟨1, Settings.isCents_cents 1⟩⟩
  have countable : world.store.Countable := by
    unfold Store.Countable
    decide +kernel
  have reconciled := aggregates_reconciled ⟨0, by decide⟩ () (Sample.prepared ++ Sample.resumed)
    (by simpa [Sample.prepared, Sample.resumed, Event.InCents] using prices) countable
  refine ⟨reconciled.1, ?_⟩
  have returns : ((Pass.execute Sample.engine.toEngine 1).run.run world).1.toOption.isSome = true := by
    decide +kernel
  cases returned : ((Pass.execute Sample.engine.toEngine 1).run.run world).1 with
  | error failure =>
    rw [returned] at returns
    cases returns
  | ok result => exact ⟨result, rfl, reconciled.2 Sample.engine 1 result prices returned⟩

end Herald
