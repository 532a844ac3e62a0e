import Herald.Proofs.Exact
import Herald.Proofs.Listing
import Herald.Proofs.Tenancy

/-! # Tenants do not meet

A pass reads and writes in the rows of its campaign's tenant alone. So two passes of a campaign on
stores with the same rows of that tenant run alike, whatever other tenants have there, and no row of
another tenant changes.
-/

namespace Herald

variable {σ α β : Type}

/-- Behind a target that has been read there are fewer targets than before the batch. -/
theorem Audience.after_shrinks {audience : Audience} {size after : Int} {store : Store α}
    {targets : List Target} (read : audience.batch size after store = .ok targets)
    {last : Target} (member : last ∈ targets) :
    (audience.after last.id store).length < (audience.after after store).length := by
  have here : last ∈ audience.after after store := by
    obtain ⟨fit, _, read⟩ := ok_of_bind read
    cases read
    split at member
    · exact member
    · exact List.mem_of_mem_take member
  have later : after < last.id := by
    simp only [Audience.after, List.mem_filter, Bool.and_eq_true, decide_eq_true_eq] at here
    exact here.2.2
  have narrower : audience.after last.id store =
      (audience.after after store).filter fun target => last.id < target.id := by
    simp only [Audience.after, List.filter_filter]
    exact List.filter_congr fun target _ => by grind
  rw [narrower, List.length_filter_lt_length_iff_exists]
  exact ⟨last, here, by simp⟩

/-- Two worlds that are the same to a scope, beyond which each is like a store of its own. -/
structure Related (scope : Scope) (first second : Store α) (world other : World σ α) : Prop where
  now_eq : other.now = world.now
  journal_eq : other.journal = world.journal
  outside_eq : other.outside = world.outside
  seen_eq : other.store.seen scope = world.store.seen scope
  left : Store.Stays scope first world.store
  right : Store.Stays scope second other.store

namespace Related

variable {scope : Scope} {first second : Store α}

theorem created_eq {world other : World σ α} (related : Related scope first second world other) :
    other.store.created = world.store.created := by
  have same : (other.store.seen scope).created = (world.store.seen scope).created :=
    congrArg Store.created related.seen_eq
  exact same

theorem clock : Alike (Related scope first second : World σ α → World σ α → Prop)
    (Run.clock : Run σ α Moment).run (Run.clock : Run σ α Moment).run :=
  fun _ _ related => ⟨congrArg Except.ok related.now_eq, related⟩

theorem journal (line : String) :
    Alike (Related scope first second : World σ α → World σ α → Prop)
      (Run.record line : Run σ α Unit).run (Run.record line : Run σ α Unit).run :=
  fun _ _ related => ⟨rfl, { related with
    journal_eq := congrArg (· ++ [line]) related.journal_eq }⟩

section Tables

variable (fits : first.Fits scope) (fits' : second.Fits scope)

include fits fits'

/-- What a scope's rows tell is told alike. -/
theorem query {read : Store α → β}
    (sees : ∀ store : Store α, store.Fits scope → read (store.seen scope) = read store) :
    Alike (Related scope first second : World σ α → World σ α → Prop)
      (Run.query read : Run σ α β).run (Run.query read : Run σ α β).run := by
  refine alike_run_get_bind fun world other related => ?_
  have same : read other.store = read world.store := by
    rw [← sees other.store (related.right.fits fits'), related.seen_eq,
      sees world.store (related.left.fits fits)]
  rw [related.created_eq, same]
  split
  · exact alike_run_pure
  · exact alike_throw

theorem consult {read : Store α → Except Failure β}
    (sees : ∀ store : Store α, store.Fits scope → read (store.seen scope) = read store) :
    Alike (Related scope first second : World σ α → World σ α → Prop)
      (Run.consult read : Run σ α β).run (Run.consult read : Run σ α β).run := by
  refine alike_run_get_bind fun world other related => ?_
  have same : read other.store = read world.store := by
    rw [← sees other.store (related.right.fits fits'), related.seen_eq,
      sees world.store (related.left.fits fits)]
  rw [related.created_eq, same]
  split
  · cases read world.store <;> exact alike_pure
  · exact alike_throw

/-- What is confined to a scope is written alike. -/
theorem commit {write : Store α → Except Failure (β × Store α)}
    (confined : Store.Confined scope write) :
    Alike (Related scope first second : World σ α → World σ α → Prop)
      (Run.commit write : Run σ α β).run (Run.commit write : Run σ α β).run := by
  refine alike_commit (f := Store.seen scope) (fun _ _ related => related.created_eq)
    (fun world other related => ?_) fun _ _ _ _ _ _ related left right seen => ?_
  · obtain ⟨found, sees⟩ := confined.sees
    rw [sees _ (related.right.fits fits'), sees _ (related.left.fits fits), related.seen_eq]
  · exact {
      related with
      seen_eq := seen
      left := related.left.trans (confined.stays _ _ _ (related.left.fits fits) left)
      right := related.right.trans (confined.stays _ _ _ (related.right.fits fits') right) }

section Walk

variable {audience : Audience} (own : audience.tenant = scope.tenant) {limit : Option Int}
  {visit visit' : β → TargetRecord → Steady σ α (Visit β)}
  (visits : ∀ found target, Alike (Related scope first second) (visit found target)
    (visit' found target))

include own visits

/-- Walks run alike if both may read as many batches as there are targets: each batch but an empty
one leaves fewer targets behind it. -/
theorem walkAfter (size : Int) {batches batches' : ℕ} {after : Int}
    (enough : (audience.after after first).length < batches)
    (enough' : (audience.after after first).length < batches') (found : β) (visited : ℕ) :
    Alike (Related scope first second)
      (audience.walkAfter size limit visit batches after found visited)
      (audience.walkAfter size limit visit' batches' after found visited) := by
  induction batches generalizing batches' after found visited with
  | zero => exact absurd enough (Nat.not_lt_zero _)
  | succ batches ih =>
    cases batches' with
    | zero => exact absurd enough' (Nat.not_lt_zero _)
    | succ batches' =>
      rw [Audience.walkAfter, Audience.walkAfter]
      have reads : Alike (Related scope first second : World σ α → World σ α → Prop)
          (Run.consult (audience.batch size after) : Run σ α _).run
            (Run.consult (audience.batch size after) : Run σ α _).run :=
        consult fits fits' fun store _ => by
          rw [Audience.batch, Store.after_seen audience own, Audience.batch]
      -- What is read is known from the first store, on which the number of batches depends.
      have known : ∀ world other, Related scope first second world other →
          Leads (Run.consult (audience.batch size after) : Run σ α _).run world fun result _ =>
            ∀ targets, result = .ok targets → audience.batch size after first = .ok targets := by
        intro world other related
        have same : audience.batch size after world.store = audience.batch size after first := by
          rw [Audience.batch, Audience.batch,
            Audience.after_congr (related.left.targets_eq audience.kind)]
        by_cases created : world.store.created = true
        · rw [leads_run, ends_consult created, same]
          exact fun _ => id
        · simp only [leads_run, Run.consult, ends_bind, ends_get, created, Bool.false_eq_true,
            ↓reduceIte, ends_throw]
          exact fun targets same => by cases same
      refine alike_bind_of reads known fun result read => ?_
      cases result with
      | error failure => exact alike_pure
      | ok targets =>
        dsimp only
        cases last? : targets.getLast? with
        | none => exact alike_pure
        | some last =>
          have fewer := Audience.after_shrinks (read targets rfl) (List.mem_of_getLast? last?)
          dsimp only
          refine alike_bind (Audience.walkRecords_alike visits _ found visited) fun walked => ?_
          cases walked with
          | more found visited => exact ih (by omega) (by omega) found visited
          | done found => exact alike_pure
          | failed found failure => exact alike_pure

theorem walk (size : Int) (start : β) :
    Alike (Related scope first second) (audience.walk size limit visit start)
      (audience.walk size limit visit' start) := by
  unfold Audience.walk
  split
  · exact alike_pure
  · refine alike_get_bind fun world other related => ?_
    have here : audience.after 0 first = audience.after 0 world.store :=
      (Audience.after_congr (related.left.targets_eq audience.kind)).symm
    have there : audience.after 0 first = audience.after 0 other.store := by
      rw [here, ← Store.after_seen audience own, ← related.seen_eq, Store.after_seen audience own]
    refine alike_bind (walkAfter fits fits' own visits size ?_ ?_ start 0) fun walked => ?_
    · rw [here]
      exact Nat.lt_succ_of_le (Audience.records_length_le world.store)
    · rw [there]
      exact Nat.lt_succ_of_le (Audience.records_length_le other.store)
    · cases walked <;> exact alike_pure

end Walk

end Tables

end Related

/-! ## Providers -/

/-- An action on what is outside alone: it neither reads nor writes the tables or the journal. -/
def Run.Detached (action : Run σ α β) : Prop :=
  ∃ act : Moment → σ → Except Failure β × Moment × σ, ∀ world : World σ α,
    action.run.run world = ((act world.now world.outside).1, { world with
      now := (act world.now world.outside).2.1, outside := (act world.now world.outside).2.2 })

/-- An engine whose providers have nothing to do with the tables. -/
structure Engine.Detached (engine : Engine σ α) : Prop where
  exchange : ∀ request, (engine.exchange request).Detached
  beforeFinish : engine.beforeFinish.Detached

theorem Related.detached {scope : Scope} {first second : Store α} {action : Run σ α β}
    (detached : action.Detached) :
    Alike (Related scope first second) action.run action.run := by
  obtain ⟨act, acts⟩ := detached
  intro world other related
  have here : action.run.run world = _ := acts world
  have there : action.run.run other = _ := acts other
  rw [here, there, related.now_eq, related.outside_eq]
  exact ⟨rfl, { related with now_eq := rfl, outside_eq := rfl }⟩

theorem detached_noted {ν : Type} {note : ν} {action : Run σ α β} (detached : action.Detached) :
    (Run.noted (fun _ _ => note) action).Detached := by
  obtain ⟨act, acts⟩ := detached
  refine ⟨fun now outside => ((act now outside.1).1, (act now outside.1).2.1,
    (act now outside.1).2.2, outside.2 ++ [note]), fun world => ?_⟩
  have here : action.run.run world.plain = _ := acts world.plain
  rw [Run.noted_run, here]
  rfl

/-- The requests of a pass, in their order; there is none where the campaign is about to be moved
on. -/
def Pass.requests [Amount α] (engine : Engine σ α) (id : Int) (world : World σ α) :
    List (Option Request) :=
  notes (fun request? _ _ => request?) engine id world

/-- The engine with a note of each request. -/
abbrev Engine.asking (engine : Engine σ α) : Engine (σ × List (Option Request)) α :=
  engine.recording fun request? _ _ => request?

theorem Engine.Detached.recording {engine : Engine σ α} (detached : engine.Detached) :
    (engine.recording fun request? _ _ => request?).Detached where
  exchange request := detached_noted (detached.exchange request)
  beforeFinish := detached_noted detached.beforeFinish

/-! ## Passes -/

/-- Passes of a campaign in a scope run alike on stores that are the same to it. -/
theorem Engine.Detached.parallel [Amount α] {engine : Engine σ α} (detached : engine.Detached)
    {scope : Scope} {first second : Store α} (fits : first.Fits scope) (fits' : second.Fits scope)
    {id : Int} (owns : scope.owns id = true) :
    Parallel engine engine id (fun campaign => campaign.id = id ∧ campaign.tenant = scope.tenant)
      (Related scope first second) where
  settings_eq := rfl
  provider_eq _ := rfl
  own_id _ own := own.1
  own_terms campaign other same own := by
    have ids : other.terms.id = campaign.terms.id := congrArg Campaign.id same
    have tenants : other.terms.tenant = campaign.terms.tenant := congrArg Campaign.tenant same
    exact ⟨ids.trans own.1, tenants.trans own.2⟩
  finds world other related campaign found := by
    have tenant := related.left.fits fits campaign (List.mem_of_find?_eq_some found)
    rw [campaign?_id found, owns] at tenant
    exact ⟨campaign?_id found, beq_iff_eq.mp tenant.symm⟩
  clock := Related.clock
  get? := Related.consult fits fits' fun store fits => by
    cases fitted : Cell.fitted id with
    | error failure => rfl
    | ok fit =>
      cases fitted_eq fitted
      simp only [bind, Except.bind, Store.campaign?_seen fits owns]
  status? := Related.query fits fits' fun store fits => by
    rw [Store.campaign?_seen fits owns]
  transition allowed change keeps := alike_run_bind Related.clock fun now =>
    Related.commit fits fits' (Store.confined_transition owns allowed fun campaign => keeps campaign)
  adds tally count now := Related.commit fits fits' (Store.confined_applyIn owns tally count now)
  definitions campaign own := Related.query fits fits' fun store _ => by
    rw [own.2, Store.rows_seen]
  cooled campaign start own := Related.consult fits fits' fun store _ => by
    cases fitted : Cell.fitted campaign.id with
    | error failure => rfl
    | ok fit =>
      cases fitted_eq fitted
      simp only [bind, Except.bind, Store.activeIn_seen (own.1 ▸ owns)]
  messaged campaign own := Related.query fits fits' fun store _ =>
    Store.messagedIn_seen (own.1 ▸ owns) campaign.target
  walk campaign audience limit visit visit' start own tenant visits :=
    Related.walk fits fits' (tenant.trans own.2) visits engine.batchSize start
  log campaign message own numbered :=
    Related.commit fits fits' (Store.confined_logIn (own.1 ▸ owns) numbered)
  pays campaign amount own := by
    rw [own.2]
    exact Related.commit fits fits' (Store.confined_deductIn amount)
  repays campaign amount own := by
    rw [own.2]
    exact Related.commit fits fits' (Store.confined_addIn amount)
  cooldown campaign kind target own := by
    refine alike_run_bind Related.clock fun now => Related.commit fits fits' ?_
    cases fitted : Cell.fitted campaign.id with
    | error failure => exact Store.confined_error failure
    | ok fit =>
      cases fitted_eq fitted
      cases (Cell.fitted target : Except Failure Int) with
      | error failure => exact Store.confined_error failure
      | ok fitTarget => exact Store.confined_recordIn (own.1 ▸ owns) campaign.tenant
  journal := Related.journal
  exchange request := Related.detached (detached.exchange request)
  beforeFinish := Related.detached detached.beforeFinish

/-- Stores with the same rows of a tenant are the same to its scope. -/
theorem Related.start {scope : Scope} (world : World σ α) {other : Store α}
    (same : other.seen scope = world.store.seen scope) :
    Related scope world.store other world { world with store := other } :=
  ⟨rfl, rfl, rfl, same, .refl _, .refl _⟩

/-- Two passes of a tenant's campaign that nobody can tell apart who sees no more than the tenant:
on a store and on another one, they have the same result, ask for the same and leave the same rows
of the tenant behind, and no row of another tenant has changed on either store. -/
structure Pass.Isolated [Amount α] (engine : Engine σ α) (id : Int) (tenant : String)
    (world : World σ α) (other : Store α) : Prop where
  result_eq : ((execute engine id).run.run { world with store := other }).1 =
    ((execute engine id).run.run world).1
  requests_eq : requests engine id { world with store := other } = requests engine id world
  rows_eq : ((execute engine id).worldAfter { world with store := other }).store.rowsOf tenant =
    ((execute engine id).worldAfter world).store.rowsOf tenant
  others_stay : ((execute engine id).worldAfter world).store.besides tenant =
    world.store.besides tenant
  others_stay' : ((execute engine id).worldAfter { world with store := other }).store.besides tenant =
    other.besides tenant
  now_eq : ((execute engine id).worldAfter { world with store := other }).now =
    ((execute engine id).worldAfter world).now
  journal_eq : ((execute engine id).worldAfter { world with store := other }).journal =
    ((execute engine id).worldAfter world).journal
  outside_eq : ((execute engine id).worldAfter { world with store := other }).outside =
    ((execute engine id).worldAfter world).outside

/-- A pass of a tenant's campaign has to do with that tenant alone: on every other store with the
same rows of the tenant nobody could tell the difference, as long as the providers give the same
answers. -/
theorem tenants_isolated [Amount α] {engine : Engine σ α} (detached : engine.Detached)
    (world : World σ α) (other : Store α) (tenant : String) (id : Int)
    (owned : ∃ campaign ∈ world.store.campaigns, campaign.tenant = tenant ∧ campaign.id = id)
    (distinct : (world.store.campaigns.map Campaign.id).Nodup)
    (distinct' : (other.campaigns.map Campaign.id).Nodup)
    (same : other.rowsOf tenant = world.store.rowsOf tenant) :
    Pass.Isolated engine id tenant world other := by
  have scopes := Store.scope_of_rowsOf same
  have fits := Store.fits_scope distinct tenant
  have fits' : other.Fits (world.store.scope tenant) := scopes ▸ Store.fits_scope distinct' tenant
  have owns : (world.store.scope tenant).owns id = true := by
    obtain ⟨campaign, member, rfl, rfl⟩ := owned
    exact List.any_eq_true.mpr ⟨campaign, member, by simp⟩
  have sees : other.seen (world.store.scope tenant) =
      world.store.seen (world.store.scope tenant) := by
    rw [Store.rowsOf, scopes] at same
    exact same
  have noted := ((detached.recording.parallel fits fits' owns).execute (world.beside [])
    (World.beside { world with store := other } []) (Related.start (world.beside []) sees)).2
  obtain ⟨result, related⟩ := (detached.parallel fits fits' owns).execute world _
    (Related.start world sees)
  have here := Store.scope_of_keys related.left.keys_eq tenant
  have there := (Store.scope_of_keys related.right.keys_eq tenant).trans scopes
  refine ⟨result, congrArg Prod.snd noted.outside_eq, ?_, ?_, ?_, related.now_eq,
    related.journal_eq, related.outside_eq⟩
  · exact (congrArg (Store.seen · _) there).trans (related.seen_eq.trans
      (congrArg (Store.seen · _) here).symm)
  · exact (congrArg (Store.beyond · _) here).trans related.left.beyond_eq
  · exact ((congrArg (Store.beyond · _) there).trans related.right.beyond_eq).trans
      (congrArg (Store.beyond · other) scopes.symm)

namespace Sample

/-- The same tables with a campaign, a cooldown and a balance of another tenant. -/
def shared : Store Exact :=
  let world : World Unit Exact := funded 4
  { world.store with
    campaigns := world.store.campaigns ++ [Campaign.ofDraft 2 "u" dawn draft]
    cooldowns := ⟨41, "u", 2, "customer", 1, dawn, dawn⟩ :: world.store.cooldowns
    balances := ⟨7, "u", Amount.zero⟩ :: world.store.balances }

theorem shared_rowsOf : shared.rowsOf "t" = (funded 4 : World Unit Exact).store.rowsOf "t" := by
  have scopes : shared.scope "t" = (funded 4 : World Unit Exact).store.scope "t" := by
    simp [Store.scope, shared, Campaign.ofDraft]
  have owns : ((funded 4 : World Unit Exact).store.scope "t").owns 2 = false := by decide +kernel
  have tenant : ((funded 4 : World Unit Exact).store.scope "t").tenant = "t" := rfl
  rw [Store.rowsOf, scopes]
  simp [Store.rowsOf, Store.seen, Store.pick, Store.unnumbered, shared, Campaign.ofDraft, owns,
    tenant]

theorem engine_detached : (engine : OperatedEngine Unit α).toEngine.Detached where
  exchange request := by
    cases request <;> exact ⟨fun now outside => (.ok _, now, outside), fun _ => rfl⟩
  beforeFinish := ⟨fun now outside => (.ok (), now, outside), fun _ => rfl⟩

end Sample

theorem sample_tenants_isolated :
    let engine : OperatedEngine Unit Exact := Sample.engine
    let world : World Unit Exact := Sample.funded 4
    engine.toEngine.Detached ∧
      (∃ campaign ∈ world.store.campaigns, campaign.tenant = "t" ∧ campaign.id = 1) ∧
      (world.store.campaigns.map Campaign.id).Nodup ∧
      (Sample.shared.campaigns.map Campaign.id).Nodup ∧
      Sample.shared.rowsOf "t" = world.store.rowsOf "t" ∧
      Pass.Isolated engine.toEngine 1 "t" world Sample.shared := by
  intro engine world
  have owned : ∃ campaign ∈ (Sample.funded 4 : World Unit Exact).store.campaigns,
      campaign.tenant = "t" ∧ campaign.id = 1 := by decide +kernel
  have distinct : ((Sample.funded 4 : World Unit Exact).store.campaigns.map Campaign.id).Nodup := by
    decide +kernel
  have distinct' : (Sample.shared.campaigns.map Campaign.id).Nodup := by decide +kernel
  exact ⟨Sample.engine_detached, owned, distinct, distinct', Sample.shared_rowsOf,
    tenants_isolated Sample.engine_detached world Sample.shared "t" 1 owned distinct distinct'
      Sample.shared_rowsOf⟩

end Herald
