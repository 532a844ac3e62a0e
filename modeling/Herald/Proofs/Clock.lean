import Herald.Proofs.Frame

/-! # Passes in time

As long as its surroundings never set the clock back, no time runs backwards in a pass, and every
message that goes out is logged with a time between the begin of the pass and its end.
-/

namespace Herald

variable {σ α β : Type}

/-- The clock is not set back. -/
def Elapses (before after : World σ α) : Prop := before.now.micros ≤ after.now.micros

instance : IsPreorder (World σ α) Elapses where
  refl _ := Nat.le_refl _
  trans _ _ _ := Nat.le_trans

/-- An engine around which the clock is never set back. -/
structure Engine.KeepsTime (engine : Engine σ α) : Prop where
  exchange : ∀ request, Moves Elapses (engine.exchange request).run
  beforeFinish : Moves Elapses engine.beforeFinish.run

/-- If the message has gone out, its row says when, and that was between two moments. -/
def Message.IsStamped (first last : Moment) (row : Message α) : Prop :=
  row.status.isSuccess = true →
    ∃ time, row.sentAt = some time ∧ first.micros ≤ time.micros ∧ time.micros ≤ last.micros

theorem Message.IsStamped.widen {first last earlier later : Moment} {row : Message α}
    (stamped : row.IsStamped first last) (before : earlier.micros ≤ first.micros)
    (after : last.micros ≤ later.micros) : row.IsStamped earlier later := by
  intro out
  obtain ⟨time, sent, low, high⟩ := stamped out
  exact ⟨time, sent, Nat.le_trans before low, Nat.le_trans high after⟩

/-- Time goes on, and what is added to the log meanwhile is stamped with it. -/
structure Stamps (before after : World σ α) : Prop where
  elapses : Elapses before after
  logged : ∃ rows, after.store.messages = before.store.messages ++ rows ∧
    ∀ row ∈ rows, row.IsStamped before.now after.now

/-- Nothing is added to the log while time goes on. -/
theorem Stamps.of_elapses {before after : World σ α} (elapses : Elapses before after)
    (same : after.store.messages = before.store.messages) : Stamps before after :=
  ⟨elapses, [], same.trans (List.append_nil _).symm, List.forall_mem_nil _⟩

theorem Stamps.of_now_eq {before after : World σ α} (now : after.now = before.now)
    (same : after.store.messages = before.store.messages) : Stamps before after :=
  .of_elapses (Nat.le_of_eq (congrArg Moment.micros now.symm)) same

instance : IsPreorder (World σ α) Stamps where
  refl _ := .of_now_eq rfl rfl
  trans before middle after first second := by
    obtain ⟨elapses, rows, logged, stamped⟩ := first
    obtain ⟨elapses', rows', logged', stamped'⟩ := second
    refine ⟨IsTrans.trans _ _ _ elapses elapses', rows ++ rows', ?_, fun row member => ?_⟩
    · rw [logged', logged, List.append_assoc]
    · rcases List.mem_append.mp member with old | new
      · exact (stamped row old).widen (Nat.le_refl _) elapses'
      · exact (stamped' row new).widen elapses (Nat.le_refl _)

variable [Amount α]

namespace Send

omit [Amount α] in
/-- A row that is stamped with the time of its logging. -/
theorem logged_stamps {message : Int → Except Failure (Message α)} {world : World σ α} (sent : Sent)
    (stamped : ∀ id row, message id = .ok row → row.IsStamped world.now world.now) :
    Ends (do Run.commit (logIn message); return sent : Run σ α Sent) world
      fun _ after => Stamps world after := by
  have logs : Ends (Run.commit (logIn message)) world fun _ after => Stamps world after := by
    refine ends_commit_of (fun _ => refl world) fun value store wrote => ?_
    obtain ⟨row, made, wrote⟩ := ok_of_bind wrote
    cases wrote
    exact ⟨Nat.le_refl _, [row], rfl, List.forall_mem_singleton.mpr (stamped _ row made)⟩
  rw [ends_bind]
  refine Leads.mono logs ?_
  rintro (failure | value) after stamps <;> exact stamps

theorem sentRow_stamped {blank row : Message α} {cost : Decimal} {outcome : Outcome} {now : Moment}
    (made : sentRow blank cost outcome now = .ok row) : row.IsStamped now now := by
  obtain ⟨stored, _, made⟩ := ok_of_bind made
  obtain ⟨reported, _, made⟩ := ok_of_bind made
  cases made
  exact fun _ => ⟨now, rfl, Nat.le_refl _, Nat.le_refl _⟩

omit [Amount α] in
theorem simulate_stamps (row : Moment → Int → Message α) :
    Moves Stamps (simulate row : Run σ α Sent).run := by
  refine moves_iff.mpr fun world => leads_run.mpr ?_
  rw [simulate, ends_bind, ends_clock]
  refine logged_stamps .simulated fun id row made => ?_
  cases made
  exact fun _ => ⟨world.now, rfl, Nat.le_refl _, Nat.le_refl _⟩

variable {engine : Engine σ α}

theorem sendLive_stamps (asks : ∀ request, Moves Stamps (engine.exchange request).run)
    (tenant : String) (channel : Channel) (cost : Decimal) (outgoing : Outgoing)
    {row : Moment → Int → Message α} (blank : ∀ now id, (row now id).status = .failed) :
    Moves Stamps (sendLive engine tenant channel cost outgoing row).run := by
  have pays : BalanceLedger.Allows (Stamps : World σ α → World σ α → Prop) :=
    fun _ _ => .of_now_eq rfl rfl
  refine moves_run_bind (BalanceLedger.deduct_moves pays tenant cost) fun paid => ?_
  cases paid with
  | false => exact moves_throw_bind
  | true =>
    refine moves_run_bind (settle_moves asks pays tenant cost channel outgoing) fun outcome => ?_
    split
    · refine moves_iff.mpr fun world => leads_run.mpr ?_
      rw [ends_bind, ends_clock]
      exact logged_stamps (.charged cost) fun id row made => sentRow_stamped made
    · refine moves_run_bind (BalanceLedger.refund_moves pays tenant cost) fun _ => ?_
      refine moves_iff.mpr fun world => leads_run.mpr ?_
      rw [ends_bind, ends_clock]
      refine logged_stamps .rejected fun id row made => ?_
      cases made
      intro out
      dsimp only at out
      rw [blank] at out
      cases out

/-- A message is logged with the time of its logging. -/
theorem message_stamps (asks : ∀ request, Moves Stamps (engine.exchange request).run)
    (campaign : Campaign α) (isTest : Bool) (target : TargetRecord) (channel : Channel) :
    Moves Stamps (message engine campaign isTest target channel).run := by
  refine moves_run_bind moves_pure? fun composed => ?_
  dsimp only
  split
  · exact simulate_stamps _
  · exact sendLive_stamps asks _ _ _ _ fun _ _ => rfl

end Send

/-- Every step of a pass stamps what it logs. -/
theorem OperatedEngine.respects_stamps {engine : OperatedEngine σ α}
    (keepsTime : engine.toEngine.KeepsTime) : engine.toEngine.Respects Stamps where
  message := Send.message_stamps fun request world => .of_elapses (keepsTime.exchange request world)
    (engine.exchange_moves (fun _ => rfl) request world)
  cooldown := record_moves fun _ _ => .of_now_eq rfl rfl
  life _ _ _ _ _ := .of_now_eq rfl rfl
  tally _ _ _ := Lifecycle.apply_moves fun _ _ _ => .of_now_eq rfl rfl
  beforeFinish world := .of_elapses (keepsTime.beforeFinish world)
    (view_of_standing (fun _ => rfl) (engine.beforeFinish_operated world).standing)
  journal _ _ := .of_now_eq rfl rfl

end Herald
