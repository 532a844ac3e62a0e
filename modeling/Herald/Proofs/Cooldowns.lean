import Herald.Proofs.Closing
import Herald.Proofs.Cooling

/-! # Cooldowns from pass to pass

Behind a pass of a campaign either the ledger covers all that the campaign has sent or the campaign
is closed. Nothing in between takes that away as long as time does not run backwards and cleaning up
spares what is still in cooldown, so a later pass leaves out whoever is in its cooldown window, and
what it sends is more than the cooldown later than all before.
-/

namespace Herald

variable {σ α : Type} [Amount α]

open CooldownLedger

/-! ## Windows -/

/-- A window starts so much time ago. -/
theorem CooldownLedger.windowStart_eq {now start : Moment} {days : Cell}
    (found : windowStart now days = .ok start) :
    ∃ micros, days.micros .days = .ok micros ∧ start.micros + micros = now.micros := by
  obtain ⟨micros, lasts, found⟩ := ok_of_bind found
  refine ⟨micros, lasts, ?_⟩
  unfold Moment.earlier Moment.addMicros? Moment.ofMicros? at found
  split at found
  · rename_i moment opened
    cases found
    split at opened
    · cases opened
      dsimp only
      omega
    · cases opened
  · cases found

namespace Pass

omit [Amount α] in
/-- Whoever a pass does not leave out is not in its cooldown window. -/
theorem not_cooling_of_admitted {now : Moment} {store : Store α} {campaign : Campaign α}
    {excluded : List Int} {days targetId : ℤ} {time : Moment}
    (found : excludedIn now store campaign = .ok excluded)
    (lasts : campaign.cooldownDays = .int days) (positive : 1 ≤ days)
    (admitted : excluded.contains targetId = false)
    (active : isActiveIn store campaign.id campaign.target targetId time = true) :
    time.micros + days * dayMicros < now.micros := by
  obtain ⟨cooled, found, among⟩ := ok_of_bind found
  have unlisted : targetId ∉ cooled := by
    intro member
    refine Bool.false_ne_true (admitted.symm.trans (List.contains_iff_mem.mpr ?_))
    cases among
    split
    · exact member
    · exact List.mem_append_left _ member
  obtain ⟨isPositive, decided, found⟩ := ok_of_bind found
  rw [lasts] at decided found
  cases decided
  rw [decide_eq_true (by omega : 0 < days)] at found
  obtain ⟨start, opens, found⟩ := ok_of_bind found
  obtain ⟨fit, fits, found⟩ := ok_of_bind found
  cases fitted_eq fits
  cases found
  obtain ⟨row, member, about, held⟩ := isActiveIn_iff.mp active
  obtain ⟨micros, lasted, opened⟩ := windowStart_eq opens
  obtain rfl : days * (dayMicros : ℤ) = micros := Except.ok.inj lasted
  by_contra cooling
  refine unlisted (List.mem_map.mpr ⟨row, List.mem_filter.mpr ⟨member, ?_⟩, ?_⟩)
  · simp only [isFor, Bool.and_eq_true, beq_iff_eq] at about
    simp only [about.1.1, about.1.2, BEq.rfl, Bool.true_and, decide_eq_true_eq]
    change start.micros ≤ row.sentAt.micros
    omega
  · simp only [isFor, Bool.and_eq_true, beq_iff_eq] at about
    exact about.2

end Pass

/-! ## One pass -/

/-- The ledger covers all that a campaign has sent, or the campaign is closed. -/
def Cooled (id days : ℤ) (world : World σ α) : Prop :=
  AllCovered id days world ∨ IsClosed (world.status? id)

namespace Pass

variable {engine : OperatedEngine σ α} {id days : ℤ} {world : World σ α}

omit [Amount α] in
/-- What a pass may begin with is covered. -/
theorem Claims.covered {middle : World σ α} {old campaign : Campaign α}
    (claims : Claims id world old campaign middle) (cooled : Cooled id days world) :
    AllCovered id days world := by
  refine cooled.resolve_right fun closed => ?_
  rw [World.status?, claims.found] at closed
  exact Bool.false_ne_true (closed.not_runnable.symm.trans claims.runnable)

variable (keepsTime : engine.toEngine.KeepsTime)

include keepsTime

/-- A pass of the campaign covers what it sends, or leaves the campaign closed. -/
theorem execute_cooled_own (cooled : Cooled id days world) :
    Ends (execute engine.toEngine id) world fun _ after => Cooled id days after := by
  have sends : ∀ {old campaign : Campaign α} {middle : World σ α},
      Claims id world old campaign middle → IsClosed (middle.status? id) := by
    intro old campaign middle claims
    refine .inl ?_
    rw [World.status?, claims.found_claimed, claims.campaign_eq]
    rfl
  refine execute_ends (fun _ => cooled) ?_ ?_
  · intro old campaign isTest count failure middle claims
    exact ((close_staysClosed id campaign isTest _ _).leads middle).mono
      fun _ _ closes => .inr (closes (sends claims))
  · intro setting middle walks
    obtain ⟨old, claims, -⟩ := walks.claims
    have begun : Advances world middle := by
      rw [claims.middle_eq]
      exact .of_now_eq rfl rfl
    have covered : AllCovered id days middle :=
      (claims.covered cooled).advance begun claims.messages_eq
    refine ((walk_covers keepsTime claims.id_eq walks.target_eq covered).and
      ((walk_moves (reaches_staysClosed engine id) setting).leads middle)).mono ?_
    rintro ⟨progress, failure | failure⟩ later ⟨covers, stays⟩
    · refine (((conclude_moves (OperatedEngine.respects_advances keepsTime).toSettles setting
        (progress, none)).leads later).and ((conclude_moves (settles_log engine) setting
          (progress, none)).leads later)).mono ?_
      rintro result after ⟨advances, same⟩
      exact .inl ((covers rfl).advance advances same)
    · rw [Setting.conclude]
      exact ((close_staysClosed id setting.campaign setting.isTest _ _).leads later).mono
        fun _ _ closes => .inr (closes (stays (sends claims)))

/-- A pass covers what it sends, or leaves its campaign closed; other campaigns stay as they are. -/
theorem execute_cooled (orderly : Orderly world.store) (other : Int)
    (cooled : Cooled id days world) :
    Ends (execute engine.toEngine other) world fun _ after => Cooled id days after := by
  by_cases same : id = other
  · subst same
    exact execute_cooled_own keepsTime cooled
  · refine Leads.mono (Leads.and (execute_logs engine other orderly)
      (((execute_moves (OperatedEngine.respects_advances keepsTime) other).leads world).and
        ((execute_staysClosed engine same).leads world))) ?_
    rintro result after ⟨⟨rows, logged, adds⟩, advances, stays⟩
    refine cooled.imp (fun covered row member reaches => ?_) stays
    rcases List.mem_append.mp (logged ▸ member) with before | added
    · exact (covered row before reaches).advance advances
    · rcases adds with rfl | ⟨setting, middle, walks, listed⟩
      · cases added
      · obtain ⟨old, claims, -⟩ := walks.claims
        have about := (listed.about row added).1.trans claims.id_eq
        exact absurd ((Message.reaches_iff.mp reaches).1.symm.trans about) same

/-- What a pass sends is more than the cooldown later than what the campaign has sent before. -/
theorem execute_apart (orderly : Orderly world.store) (cooled : Cooled id days world)
    (lasts : ∀ campaign, world.store.campaign? id = some campaign →
      campaign.cooldownDays = .int days) (positive : 1 ≤ days) (other : Int) :
    Ends (execute engine.toEngine other) world fun _ after => ∃ rows,
      after.store.messages = world.store.messages ++ rows ∧
        ∀ row ∈ world.store.messages, ∀ next ∈ rows, row.reaches id = true →
          next.reaches id = true → row.target = next.target → row.targetId = next.targetId →
            ∃ time later : Moment, row.sentAt = some time ∧ next.sentAt = some later ∧
              time.micros + days * dayMicros < later.micros := by
  refine Leads.mono (Leads.and (execute_logs engine other orderly)
    ((execute_moves (OperatedEngine.respects_stamps keepsTime) other).leads world)) ?_
  rintro result after ⟨⟨rows, logged, adds⟩, -, added, same, stamped⟩
  cases List.append_cancel_left (logged.symm.trans same)
  refine ⟨rows, logged, fun row before next member reaches reachesNext kind target => ?_⟩
  obtain ⟨later, sentNext, begun, -⟩ := stamped next member (Message.reaches_iff.mp reachesNext).2
  rcases adds with rfl | ⟨setting, middle, walks, listed⟩
  · cases member
  obtain ⟨old, claims, -⟩ := walks.claims
  obtain ⟨about, word, admitted⟩ := listed.about next member
  obtain rfl : other = id :=
    (about.trans claims.id_eq).symm.trans (Message.reaches_iff.mp reachesNext).1
  obtain ⟨time, sent, -, active | past⟩ := claims.covered cooled row before reaches
  · have days_eq : setting.campaign.cooldownDays = .int days := by
      rw [claims.campaign_eq]
      exact lasts old claims.found
    have still : middle.store.cooldowns = world.store.cooldowns := by
      rw [claims.middle_eq]
      rfl
    have held : isActiveIn middle.store setting.campaign.id setting.campaign.target next.targetId
        time = true := by
      rw [isActiveIn_congr still, claims.id_eq, walks.target_eq, ← word, ← kind, ← target]
      exact active
    have outside := not_cooling_of_admitted walks.excluded_eq days_eq positive admitted held
    rw [claims.now_eq] at outside
    exact ⟨time, later, sent, sentNext, by omega⟩
  · exact ⟨time, later, sent, sentNext, by omega⟩

end Pass

/-! ## What happens between passes -/

/-- The stored campaign of an id stays, with the days that its cooldown lasts. -/
def Lasts (id : Int) (before after : World σ α) : Prop :=
  ∀ campaign, before.store.campaign? id = some campaign →
    ∃ later, after.store.campaign? id = some later ∧ later.cooldownDays = campaign.cooldownDays

omit [Amount α] in
theorem Lasts.of_campaigns {id : Int} {before after : World σ α}
    (same : after.store.campaigns = before.store.campaigns) : Lasts id before after :=
  fun campaign found => ⟨campaign, by rw [Store.campaign?, same]; exact found, rfl⟩

instance (id : Int) : IsPreorder (World σ α) (Lasts id) where
  refl _ campaign found := ⟨campaign, found, rfl⟩
  trans _ _ _ first second campaign found := by
    obtain ⟨middle, found, same⟩ := first campaign found
    obtain ⟨later, found, equal⟩ := second middle found
    exact ⟨later, found, equal.trans same⟩

theorem Lasts.of_plans {id : Int} {before after : World σ α}
    (same : after.store.plans = before.store.plans) : Lasts id before after := by
  intro campaign found
  obtain ⟨later, found, plan⟩ := campaign?_of_plans same.symm found
  exact ⟨later, found, show later.plan.cooldownDays = campaign.plan.cooldownDays by rw [plan]⟩

theorem History.respects_lasts (id : Int) :
    History.Respects (Lasts id : World σ α → World σ α → Prop) where
  pass engine := Pass.execute_moves (engine.respects_plans.mono fun _ _ => .of_plans)
  life world id condition change keeps := .of_plans (plans_allows world id condition change keeps)
  create tenant draft := Lifecycle.create_moves fun world now _ campaign found =>
    ⟨campaign, by rw [Store.campaign?, List.find?_append, ← Store.campaign?, found]; rfl, rfl⟩
  define tenant target spec world :=
    .of_campaigns (congrArg Prod.fst (keepsRecords.define tenant target spec world))
  upsert schema data externalId fields world :=
    .of_campaigns (congrArg Prod.fst (keepsRecords.upsert schema data externalId fields world))
  cleanup days world := .of_campaigns (congrArg Prod.fst (keepsRecords.cleanup days world))
  elapse _ _ _ := .of_campaigns rfl

/-- Nothing is sent while time goes on, and closed campaigns are not opened. -/
structure Quiet (id : Int) (before after : World σ α) : Prop where
  advances : Advances before after
  messages : after.store.messages = before.store.messages
  stays : StaysClosed id before after

instance (id : Int) : IsPreorder (World σ α) (Quiet id) where
  refl world := ⟨refl world, rfl, refl world⟩
  trans _ _ _ first second := ⟨IsTrans.trans _ _ _ first.advances second.advances,
    second.messages.trans first.messages, IsTrans.trans _ _ _ first.stays second.stays⟩

omit [Amount α] in
theorem Quiet.cooled {id days : ℤ} {before after : World σ α} (quiet : Quiet id before after)
    (cooled : Cooled id days before) : Cooled id days after :=
  cooled.imp (·.advance quiet.advances quiet.messages) quiet.stays

namespace Quiet

variable (id : Int)

theorem expire (other : Int) (now : Moment) :
    Moves (Quiet id) (Lifecycle.expire other now : Run σ α Bool).run := fun world =>
  ⟨Lifecycle.expire_moves (R := Advances) (fun _ _ _ _ _ => .of_now_eq rfl rfl) other now world,
    Lifecycle.expire_moves (R := Agree fun world => world.store.messages) (fun _ _ _ _ _ => rfl)
      other now world,
    Lifecycle.expire_staysClosed id other now world⟩

theorem operate (action : OperatorAction) :
    Moves (Quiet id) (action.run : Run σ α (Campaign α)).run := by
  intro world
  have operated : Operated world _ := .single (OperatorStep.act world action)
  exact ⟨action.moves (R := Advances) (fun _ _ _ _ _ => .of_now_eq rfl rfl) world,
    action.moves (R := Agree fun world => world.store.messages) (fun _ _ _ _ _ => rfl) world,
    (operated.attended id).staysClosed⟩

theorem create (tenant : String) (draft : Draft) :
    Moves (Quiet id) (Lifecycle.create tenant draft : Run σ α (Campaign α)).run := fun world =>
  ⟨Lifecycle.create_moves (R := Advances) (fun _ _ _ => .of_now_eq rfl rfl) world,
    Lifecycle.create_moves (R := Agree fun world => world.store.messages) (fun _ _ _ => rfl) world,
    (Lifecycle.create_rests tenant draft id world).closed nofun⟩

theorem credit (tenant : String) (amount : Decimal) :
    Moves (Quiet id) (BalanceLedger.credit tenant amount : Run σ α Decimal).run :=
  BalanceLedger.credit_moves (fun _ _ => ⟨.of_now_eq rfl rfl, rfl, .of_eq rfl⟩) tenant amount

omit [Amount α] in
theorem define (tenant target : String) (spec : AttributeSpec) :
    Moves (Quiet id) (Registry.define tenant target spec : Run σ α Definition).run :=
  Registry.define_moves fun world now => by
    unfold Registry.put
    split <;> exact ⟨.of_now_eq rfl rfl, rfl, .of_eq rfl⟩

omit [Amount α] in
theorem upsert (schema : AttributeSchema) (data : Fields) (externalId : Value) (fields : Fields) :
    Moves (Quiet id) (Target.upsert schema data externalId fields : Run σ α Target).run :=
  Target.upsert_moves fun world now target store _ wrote => by
    obtain ⟨targets, rfl, _⟩ := Target.put_ids wrote
    cases schema.target <;> exact ⟨.of_now_eq rfl rfl, rfl, .of_eq rfl⟩

end Quiet

omit [Amount α] in
/-- Cleaning up what is older than a cooldown leaves what is covered. -/
theorem CooldownLedger.cleanup_cooled {id days : ℤ} {retention : Cell}
    (spares : ∀ micros, retention.micros .days = .ok micros → days * dayMicros ≤ micros)
    (world : World σ α) :
    Ends (cleanup retention) world fun _ after =>
      after.store.messages = world.store.messages ∧
        (Cooled id days world → Cooled id days after) := by
  rw [cleanup, ends_bind, ends_clock]
  dsimp only
  rw [ends_bind, ends_pure?]
  cases opens : windowStart world.now retention with
  | error failure => exact ⟨rfl, fun cooled => cooled⟩
  | ok start =>
    refine ends_commit_of (fun _ => ⟨rfl, fun cooled => cooled⟩) fun value store wrote => ?_
    cases wrote
    refine ⟨rfl, Or.imp_left fun covered row member reaches => ?_⟩
    obtain ⟨time, sent, past, active | old⟩ := covered row member reaches
    · obtain ⟨kept, among, about, held⟩ := isActiveIn_iff.mp active
      refine ⟨time, sent, past, ?_⟩
      by_cases deleted : kept.sentAt < start
      · obtain ⟨micros, lasts, opened⟩ := windowStart_eq opens
        have least := spares micros lasts
        have deleted : kept.sentAt.micros < start.micros := deleted
        exact .inr (by dsimp only; omega)
      · refine .inl (isActiveIn_iff.mpr ⟨kept, List.mem_filter.mpr ⟨among, ?_⟩, about, held⟩)
        simp [deleted]
    · exact ⟨time, sent, past, .inr old⟩

end Herald
