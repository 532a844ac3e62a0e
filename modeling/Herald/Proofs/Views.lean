import Herald.Proofs.Abreast
import Herald.Proofs.Passing

/-! # Views of the tables

Two passes that are compared leave tables behind that differ, but show the same under some view.
Whatever looks at the tables through that view, and writes what it shows alike, runs alike. So the
few accesses that passes are made of are compared once, for every view and for every relation that
writes of this kind keep.
-/

namespace Herald

variable {σ τ α β κ : Type}

/-- A view shows the campaigns one by one, with their ids and where they stand, all targets, and
whether there are tables at all. -/
structure Store.IsView (view : Store α → Store α) (outline : Campaign α → Campaign α) : Prop where
  created : ∀ store, (view store).created = store.created
  targets : ∀ store kind, (view store).targets kind = store.targets kind
  campaigns : ∀ store campaigns,
    view { store with campaigns } = { view store with campaigns := campaigns.map outline }
  id : ∀ campaign, (outline campaign).id = campaign.id
  status : ∀ campaign, (outline campaign).status = campaign.status

/-- What a write of campaigns or cooldowns leaves alone. -/
def Store.books (store : Store α) : Bool × List (Message α) × List (Balance α) :=
  (store.created, store.messages, store.balances)

namespace Store.IsView

variable {view : Store α → Store α} {outline : Campaign α → Campaign α}
  (isView : Store.IsView view outline)

include isView

theorem campaigns_eq (store : Store α) : (view store).campaigns = store.campaigns.map outline :=
  congrArg Store.campaigns (isView.campaigns store store.campaigns)

theorem campaign?_eq (store : Store α) (id : Int) :
    (view store).campaign? id = (store.campaign? id).map outline := by
  simp only [campaign?, isView.campaigns_eq, List.find?_map, Function.comp_def, isView.id]

/-- A change of campaigns that does not look at what is left out of their outline. -/
theorem updateCampaign_eq (store : Store α) (id : Int) (allowed : CampaignStatus → Bool)
    {change : Campaign α → Campaign α}
    (commutes : ∀ campaign, outline (change campaign) = change (outline campaign)) :
    view (store.updateCampaign id (fun campaign => allowed campaign.status) change) =
      (view store).updateCampaign id (fun campaign => allowed campaign.status) change := by
  rw [updateCampaign, isView.campaigns, updateCampaign, isView.campaigns_eq, List.map_map,
    List.map_map]
  refine congrArg (fun campaigns : List (Campaign α) => { view store with campaigns })
    (List.map_congr_left fun campaign _ => ?_)
  rw [Function.comp_apply, Function.comp_apply, isView.id, isView.status]
  split
  · exact commutes campaign
  · rfl

end Store.IsView

/-- Related worlds show the same at the same time under a view, and remain related behind writes
that show the same and leave log and balances alone. -/
structure Shows (view : Store α → Store α) (outline : Campaign α → Campaign α)
    (R : World σ α → World τ α → Prop) : Prop extends Store.IsView view outline where
  now_eq : ∀ {world other}, R world other → other.now = world.now
  view_eq : ∀ {world other}, R world other → view other.store = view world.store
  put : ∀ {world other store store'}, R world other → view store' = view store →
    store.books = world.store.books → store'.books = other.store.books →
      R { world with store } { other with store := store' }

theorem CooldownLedger.books_recordIn (campaign targetId : Int) (target tenant : String)
    (now : Moment) (store : Store α) :
    (recordIn campaign target targetId tenant now store).books = store.books := by
  unfold recordIn
  split <;> rfl

namespace Shows

variable {view : Store α → Store α} {outline : Campaign α → Campaign α}
  {R : World σ α → World τ α → Prop} (shows : Shows view outline R)

include shows

theorem clock : Alike R (Run.clock : Run σ α Moment).run (Run.clock : Run τ α Moment).run :=
  fun _ _ related => ⟨congrArg Except.ok (shows.now_eq related), related⟩

/-- What the view shows is the same. -/
theorem seen {f : Store α → κ} (sees : ∀ store, f (view store) = f store) {world : World σ α}
    {other : World τ α} (related : R world other) : f other.store = f world.store := by
  rw [← sees other.store, shows.view_eq related, sees world.store]

theorem created_eq {world : World σ α} {other : World τ α} (related : R world other) :
    other.store.created = world.store.created := shows.seen shows.created related

/-- Walks over the same targets look at the same tables. -/
theorem tables (kind : TargetKind) {world : World σ α} {other : World τ α}
    (related : R world other) : other.store.created = world.store.created ∧
      other.store.targets kind = world.store.targets kind :=
  ⟨shows.created_eq related,
    shows.seen (f := fun store => store.targets kind) (shows.targets · kind) related⟩

theorem campaign?_eq (id : Int) {world : World σ α} {other : World τ α} (related : R world other) :
    (other.store.campaign? id).map outline = (world.store.campaign? id).map outline := by
  rw [← shows.toIsView.campaign?_eq, shows.view_eq related, shows.toIsView.campaign?_eq]

theorem query {read : Store α → β}
    (same : ∀ world other, R world other → read other.store = read world.store) :
    Alike R (Run.query read : Run σ α β).run (Run.query read : Run τ α β).run := by
  refine alike_run_get_bind fun world other related => ?_
  rw [shows.created_eq related, same world other related]
  split
  · exact alike_run_pure
  · exact alike_throw

theorem consult {read : Store α → Except Failure β} (sees : ∀ store, read (view store) = read store) :
    Alike R (Run.consult read : Run σ α β).run (Run.consult read : Run τ α β).run := by
  refine alike_run_get_bind fun world other related => ?_
  rw [shows.created_eq related, shows.seen sees related]
  split
  · cases read _ <;> exact alike_pure
  · exact alike_throw

/-- What sees no more than the view and leaves log and balances alone is written alike. -/
theorem commit {write : Store α → Except Failure (β × Store α)}
    (sees : ∀ first second, view second = view first →
      (write second).map (Prod.map id view) = (write first).map (Prod.map id view))
    (keeps : ∀ store value after, write store = .ok (value, after) → after.books = store.books) :
    Alike R (Run.commit write : Run σ α β).run (Run.commit write : Run τ α β).run :=
  alike_commit (fun _ _ related => shows.created_eq related)
    (fun _ _ related => sees _ _ (shows.view_eq related))
    fun _ _ _ _ _ _ related left right same =>
      shows.put related same (keeps _ _ _ left) (keeps _ _ _ right)

theorem status? (id : Int) : Alike R (Lifecycle.status? id : Run σ α (Option CampaignStatus)).run
    (Lifecycle.status? id : Run τ α (Option CampaignStatus)).run :=
  shows.query fun _ _ related =>
    shows.seen (f := fun store => (store.campaign? id).map Campaign.status) (fun store => by
      rw [shows.toIsView.campaign?_eq, Option.map_map]
      exact congrArg (Option.map · _) (funext shows.toIsView.status)) related

/-- A change of a campaign's life is made alike if it commutes with the outline of campaigns. -/
theorem transition (id : Int) (allowed : CampaignStatus → Bool) {change : Campaign α → Campaign α}
    (commutes : ∀ now campaign, outline { change campaign with updatedAt := now } =
      { change (outline campaign) with updatedAt := now }) :
    Alike R (Lifecycle.transition id allowed change : Run σ α Bool).run
      (Lifecycle.transition id allowed change : Run τ α Bool).run := by
  refine alike_run_bind shows.clock fun now => shows.commit (fun first second same => ?_)
    fun store value after wrote => ?_
  · cases (Cell.fitted id : Except Failure Int) with
    | error failure => rfl
    | ok fit =>
      have happens : ((second.campaign? fit).any fun campaign => allowed campaign.status) =
          (first.campaign? fit).any fun campaign => allowed campaign.status := by
        have shown : ∀ store : Store α,
            (((view store).campaign? fit).any fun campaign => allowed campaign.status) =
              (store.campaign? fit).any fun campaign => allowed campaign.status := fun store => by
          rw [shows.toIsView.campaign?_eq, Option.any_map]
          simp only [shows.toIsView.status]
        rw [← shown second, same, shown first]
      simp only [bind, Except.bind, pure, Except.pure, Except.map, Prod.map, id_eq, happens, same,
        shows.toIsView.updateCampaign_eq _ fit allowed (commutes now)]
  · obtain ⟨fit, _, wrote⟩ := ok_of_bind wrote
    cases wrote
    rfl

/-- A cooldown is recorded alike if the view shows it alike. -/
theorem record (campaign targetId : Int) (target tenant : String)
    (sees : ∀ (now : Moment) first second, view second = view first →
      view (CooldownLedger.recordIn campaign target targetId tenant now second) =
        view (CooldownLedger.recordIn campaign target targetId tenant now first)) :
    Alike R (CooldownLedger.record campaign target targetId tenant : Run σ α Unit).run
      (CooldownLedger.record campaign target targetId tenant : Run τ α Unit).run := by
  refine alike_run_bind shows.clock fun now => shows.commit (fun first second same => ?_)
    fun store value after wrote => ?_
  · cases fits : (Cell.fitted campaign : Except Failure Int) with
    | error failure => rfl
    | ok fit =>
      cases fits' : (Cell.fitted targetId : Except Failure Int) with
      | error failure => rfl
      | ok fitTarget =>
        cases fitted_eq fits
        cases fitted_eq fits'
        simp only [bind, Except.bind, pure, Except.pure, Except.map, Prod.map, id_eq,
          sees now first second same]
  · obtain ⟨fit, _, wrote⟩ := ok_of_bind wrote
    obtain ⟨fitTarget, _, wrote⟩ := ok_of_bind wrote
    cases wrote
    exact CooldownLedger.books_recordIn ..

end Shows

end Herald
