import Herald.Proofs.Guard

/-! # Campaigns that no pass can begin any more

A campaign that is over stays so, and one that is sending leaves that state only at the end of the
pass that has claimed it. A pass that fails does not lead its campaign back to waiting, and neither
does anybody else: behind it, whatever happens, no further pass of that campaign begins.
-/

namespace Herald

variable {σ α β : Type}

/-- A campaign is sending or over. -/
def IsClosed (status : Option CampaignStatus) : Prop :=
  status = some .sending ∨ ∃ left : CampaignStatus, status = some left ∧ left.isTerminal = true

theorem IsClosed.not_runnable {status : CampaignStatus} (closed : IsClosed (some status)) :
    status.isRunnable = false := by
  rcases closed with ⟨⟨⟩⟩ | ⟨_, ⟨⟨⟩⟩, terminal⟩
  · rfl
  · cases status <;> first | rfl | cases terminal

/-- A turn that is not the end of a pass keeps a campaign closed. -/
theorem Turn.closed {mark : Option Mark} {before after : Option CampaignStatus}
    (turn : Turn mark before after) (stays : ∀ exit, mark ≠ some (.left exit))
    (closed : IsClosed before) : IsClosed after := by
  cases turn with
  | still => exact closed
  | idle waiting ongoing waits =>
    rcases closed with sending | ⟨status, rfl, terminal⟩
    · exact absurd sending waiting
    · simp [terminal] at ongoing
  | left exit => exact absurd rfl (stays exit)
  | begun => exact .inl rfl
  | failed => exact .inr ⟨_, rfl, rfl⟩
  | expired => exact .inr ⟨_, rfl, rfl⟩
  | cancelled => exact .inr ⟨_, rfl, rfl⟩

/-- A closed campaign is not opened again. -/
def StaysClosed (id : Int) (before after : World σ α) : Prop :=
  IsClosed (before.status? id) → IsClosed (after.status? id)

instance (id : Int) : IsPreorder (World σ α) (StaysClosed id) where
  refl _ closed := closed
  trans _ _ _ first second closed := second (first closed)

theorem StaysClosed.of_eq {id : Int} {before after : World σ α}
    (same : after.status? id = before.status? id) : StaysClosed id before after :=
  fun closed => same ▸ closed

/-- A transition of another campaign. -/
theorem Lifecycle.transition_staysClosed {id other : Int} (apart : id ≠ other)
    {allowed : CampaignStatus → Bool} {change : Campaign α → Campaign α} (target : CampaignStatus)
    (ids : ∀ campaign, (change campaign).id = campaign.id)
    (leads : ∀ campaign, (change campaign).status = target) :
    Moves (StaysClosed id) (transition other allowed change : Run σ α Bool).run := by
  refine moves_iff.mpr fun world => (transition_changed other allowed ids leads world).mono ?_
  rintro (failure | _ | _) after ending
  · exact .of_eq (ending id)
  · exact .of_eq (ending.2 id)
  · exact .of_eq (Lifecycle.Changed.others ending id apart)

variable [Amount α]

/-- An operation that is not the end of the campaign's pass keeps it closed. -/
theorem Operation.staysClosed (operation : Operation) {id : Int}
    (spares : ∀ mark ∈ operation.mark? id, ∀ exit, mark ≠ .left exit) :
    Moves (StaysClosed id) (operation.run : Run σ α Bool).run := by
  intro world
  have turns : Ends operation.run world fun result after =>
      Turn (shown (operation.mark? id) result) (world.status? id) (after.status? id) :=
    operation.turns id world
  change Ends operation.run world fun _ after => StaysClosed id world after
  refine Leads.mono turns fun result after turn => ?_
  refine turn.closed fun exit shows => ?_
  unfold shown at shows
  split at shows
  · exact spares _ shows exit rfl
  · cases shows

theorem Lifecycle.markFailed_staysClosed (id other : Int) (reason : String) :
    Moves (StaysClosed id) (markFailed other reason : Run σ α Bool).run := by
  refine Operation.staysClosed (.markFailed other reason) fun mark marks exit => ?_
  simp only [Operation.mark?, Option.mem_ite_none_right, Option.mem_some_iff] at marks
  rw [← marks.2]
  rintro ⟨⟩

theorem Lifecycle.expire_staysClosed (id other : Int) (now : Moment) :
    Moves (StaysClosed id) (expire other now : Run σ α Bool).run := by
  refine Operation.staysClosed (.expire other now) fun mark marks exit => ?_
  simp only [Operation.mark?, Option.mem_ite_none_right, Option.mem_some_iff] at marks
  rw [← marks.2]
  rintro ⟨⟩

theorem Lifecycle.apply_staysClosed (id other : Int) (tally : Tally) (count : Option Cell) :
    Moves (StaysClosed id) (apply other tally count : Run σ α Bool).run :=
  Lifecycle.apply_moves fun _ _ sums => .of_eq (World.status?_of_sums sums id)

/-- Around a pass nobody opens a closed campaign. -/
theorem Attended.staysClosed {id : Int} {before after : World σ α}
    (attended : Attended id before after) : StaysClosed id before after := by
  induction attended with
  | refl => exact refl before
  | tail _ step ih =>
    refine IsTrans.trans _ _ _ ih ?_
    cases step with
    | elapse same => exact .of_eq (by rw [World.status?, same, World.status?])
    | act operation spares =>
      refine operation.staysClosed (fun mark marks exit same => ?_) _
      have ends := spares mark marks
      rw [same] at ends
      cases ends

theorem OperatedEngine.exchange_staysClosed (engine : OperatedEngine σ α) (id : Int)
    (request : Request) : Moves (StaysClosed id) (engine.exchange request).run :=
  fun world => ((engine.exchange_operated request world).attended id).staysClosed

namespace Pass

variable (engine : OperatedEngine σ α)

/-- The walk of a pass opens no closed campaign. -/
theorem reaches_staysClosed (id : Int) : engine.toEngine.Reaches (StaysClosed id) where
  message := Send.message_moves (engine.exchange_staysClosed id) (fun _ _ => .of_eq rfl)
    fun _ _ => .of_eq rfl
  cooldown := record_moves fun _ _ => .of_eq rfl

omit [Amount α] in
theorem journal_staysClosed (id : Int) (line : String) :
    Moves (StaysClosed id) (Run.record line : Run σ α Unit).run :=
  fun _ => .of_eq rfl

/-- A pass that closes with a failure opens no closed campaign. -/
theorem close_staysClosed (id : Int) (campaign : Campaign α) (isTest : Bool) (ledger : Ledger)
    (ended : Except Failure (Option CampaignStatus × Option Moment)) :
    Moves (StaysClosed id) (close campaign isTest ledger ended : Run σ α _).run :=
  close_moves_of (Lifecycle.apply_staysClosed id campaign.id) (Lifecycle.markFailed_staysClosed id _)
    (journal_staysClosed id) isTest ledger ended

/-- A pass of another campaign opens no closed campaign. -/
theorem execute_staysClosed {id other : Int} (apart : id ≠ other) :
    Moves (StaysClosed id) (execute engine.toEngine other).run := by
  intro world
  change Ends (execute engine.toEngine other) world fun _ after => StaysClosed id world after
  have claims_stays : ∀ {old campaign : Campaign α} {middle : World σ α},
      Claims other world old campaign middle → StaysClosed id world middle := by
    intro old campaign middle claims
    refine .of_eq ?_
    rw [claims.middle_eq]
    refine (Lifecycle.status?_updateCampaign world other id _ (claimed_id world.now)
      fun _ => rfl).trans ?_
    simp [apart]
  refine execute_ends (fun _ => refl world) ?_ ?_
  · intro old campaign isTest count failure middle claims
    exact ((close_staysClosed id campaign isTest _ _).leads middle).mono
      fun _ _ closes => IsTrans.trans _ _ _ (claims_stays claims) closes
  · intro setting middle walks
    obtain ⟨old, claims, -⟩ := walks.claims
    have apart : id ≠ setting.campaign.id := claims.id_eq ▸ apart
    have finishes : ∀ stopped,
        Moves (StaysClosed id) (finish engine.toEngine setting.campaign stopped).run :=
      finish_moves_of (fun _ _ leaving _ => Lifecycle.transition_staysClosed apart leaving.status
          (fun _ => rfl) fun _ => rfl)
        fun world => ((engine.beforeFinish_operated world).attended id).staysClosed
    refine ((walk_moves (reaches_staysClosed engine id) setting).leads middle).mono ?_
    intro walked later walks
    refine ((conclude_moves_of (Lifecycle.apply_staysClosed id setting.campaign.id)
      (Lifecycle.markFailed_staysClosed id _) (journal_staysClosed id) rfl finishes
      walked).leads later).mono ?_
    intro result after concludes
    exact IsTrans.trans _ _ _ (IsTrans.trans _ _ _ (claims_stays claims) walks) concludes

end Pass

end Herald
