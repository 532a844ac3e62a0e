import Herald.Proofs.Listing

/-! # Walks that meet the same targets

A pass, a count and a preview each walk over the matching targets in their own way. Whatever they
do with them, they meet the same ones in the same order, those that are `met`, as long as none of
them gives up; and if one that only counts gets through, none of the targets fails any other.
-/

namespace Herald.Audience

variable {σ α β γ : Type} {audience : Audience} {size : Int} {limit : Option Int}

/-- The targets that a walk meets if nothing stops it: none if it reads none at a time. -/
def met (audience : Audience) (size : Int) (store : Store α) : List TargetRecord :=
  if size = 0 then [] else audience.selected store

/-- Where the tables of targets are the same, the same targets are met. -/
theorem met_congr {world other : World σ α}
    (same : other.table audience.kind = world.table audience.kind) :
    audience.met size other.store = audience.met size world.store := by
  rw [met, met, selected, selected, records, records, after_congr (congrArg Prod.snd same)]

section Walks

variable {visit : β → TargetRecord → Steady σ α (Visit β)} {start : β} {world : World σ α}

/-- A walk whose limit cuts off nothing visits the targets that it meets, unless it is stopped or
fails. -/
theorem walk_leads_met {I : List TargetRecord → β → World σ α → Prop} {S : β → World σ α → Prop}
    (table : ∀ found target, Moves (Agree (World.table audience.kind)) (visit found target))
    (created : world.store.created = true)
    (ascending : Ascending ((world.store.targets audience.kind).map Target.id))
    (admits : Admits limit (audience.met size world.store).length)
    (keeps : ∀ done target found middle, target ∈ audience.met size world.store →
      I done found middle → Leads (visit found target) middle fun visited after =>
        match visited with
        | .next found => I (done ++ [target]) found after
        | .stop found => S found after
        | .giveUp _ _ => True)
    (begun : I [] start world) :
    Leads (audience.walk size limit visit start) world fun result after =>
      match result with
      | (found, none) => I (audience.met size world.store) found after ∨ S found after
      | (_, some _) => True := by
  by_cases zero : size = 0
  · subst zero
    refine (walk_blind created).mono ?_
    rintro _ _ ⟨rfl, rfl⟩
    exact .inl begun
  · rw [met, if_neg zero] at admits keeps ⊢
    refine walk_leads_selected zero table created ascending admits ?_ begun
    intro done target found middle further
    exact keeps done target found middle
      (further.subset (List.mem_append_right _ (List.mem_singleton_self target)))

end Walks

/-! ## Walks behind a count -/

section Follows

variable {step : γ → TargetRecord → γ} {visit : β → TargetRecord → Visit β}
  {I : List TargetRecord → β → Prop}

/-- Where a walk that only folds gets through some targets, one that goes on at each of the matching
ones gets through as well. -/
theorem walkRecords_follows {all : List TargetRecord}
    (goesOn : ∀ done target found, done ++ [target] <+: all → I done found →
      ∃ next, visit found target = .next next ∧ I (done ++ [target]) next)
    (targets : List TargetRecord) (done : List TargetRecord)
    (split : all = done ++ targets.filter audience.selects) (found : β) (holds : I done found)
    (folded : γ) (visited : Nat) (world other : World σ α) :
    Leads (audience.walkRecords none (fun folded target => return .next (step folded target))
        targets folded visited) world fun walked _ =>
      walked.result.2 = none →
        Leads (audience.walkRecords none (fun found target => return visit found target) targets
            found visited) other fun walked after =>
          after = other ∧ ∃ found, walked.result = (found, none) ∧ I all found := by
  induction targets generalizing done found folded visited with
  | nil =>
    rw [List.filter_nil, List.append_nil] at split
    exact fun _ => ⟨rfl, found, rfl, split ▸ holds⟩
  | cons target rest ih =>
    rw [walkRecords, walkRecords]
    cases decided : audience.predicate.holds target.attributes audience.today with
    | error refusal => exact fun through => by cases through
    | ok matched =>
      have selects : audience.selects target = matched := by rw [Audience.selects, decided]
      cases matched with
      | false =>
        rw [List.filter_cons_of_neg (by rw [selects]; exact Bool.false_ne_true)] at split
        exact ih done split found holds folded visited
      | true =>
        rw [List.filter_cons_of_pos selects] at split
        have further : done ++ [target] <+: all :=
          ⟨rest.filter audience.selects, by rw [split, List.append_assoc, List.singleton_append]⟩
        obtain ⟨next, goes, holds⟩ := goesOn done target found further holds
        have rest := ih (done ++ [target])
          (by rw [split, List.append_assoc, List.singleton_append]) next holds (step folded target)
          (visited + 1)
        simp only [leads_bind, leads_pure, goes]
        exact rest

variable {world other : World σ α} (created : world.store.created = true)
  (ascending : Ascending ((world.store.targets audience.kind).map Target.id))
  (same : other.table audience.kind = world.table audience.kind)

include created ascending same

/-- Where a fold over the matching targets gets through, so does every walk over the same table that
goes on at each of them, and it leaves the world alone. -/
theorem walk_follows
    (goesOn : ∀ done target found, done ++ [target] <+: audience.met size world.store →
      I done found → ∃ next, visit found target = .next next ∧ I (done ++ [target]) next)
    {start : β} (begun : I [] start) (folded : γ) :
    Ends (audience.fold size none step folded) world fun result _ =>
      (∃ counted, result = .ok counted) →
        Leads (audience.walk size none (fun found target => return visit found target) start) other
          fun result after => after = other ∧
            ∃ found, result = (found, none) ∧ I (audience.met size world.store) found := by
  have created' : other.store.created = true := (congrArg Prod.fst same).trans created
  have table : other.store.targets audience.kind = world.store.targets audience.kind :=
    congrArg Prod.snd same
  rw [fold, ends_bind, ends_lift]
  suffices follows : Leads (audience.walk size none
      (fun folded target => return .next (step folded target)) folded) world fun counted _ =>
        counted.2 = none →
          Leads (audience.walk size none (fun found target => return visit found target) start)
            other fun result after => after = other ∧
              ∃ found, result = (found, none) ∧ I (audience.met size world.store) found by
    refine follows.mono ?_
    rintro ⟨counted, _ | failure⟩ after follows
    · exact fun _ => follows rfl
    · rintro ⟨_, ⟨⟩⟩
  by_cases zero : size = 0
  · subst zero
    refine (leads_true _ _).mono fun _ _ _ _ => (walk_blind created').mono ?_
    rintro _ _ ⟨rfl, rfl⟩
    exact ⟨rfl, start, rfl, begun⟩
  · cases fits : Cell.fits size with
    | false =>
      refine (walk_unfit fits created rfl).mono ?_
      rintro ⟨counted, failure⟩ after ⟨_, _, failed⟩ through
      rw [through] at failed
      cases failed
    | true =>
      rw [met, if_neg zero] at goesOn ⊢
      rw [walk_leads_iff fits zero (fun _ _ => moves_pure) created ascending rfl,
        walk_leads_iff fits zero (fun _ _ => moves_pure) created' (table ▸ ascending) rfl, records,
        records, after_congr table]
      exact walkRecords_follows goesOn _ [] rfl start begun folded 0 world other

/-- Where a fold over the matching targets gets through, so does every fold over the same table, and
it keeps what its steps keep. -/
theorem fold_follows {next : β → TargetRecord → β}
    (keeps : ∀ done target found, I done found → I (done ++ [target]) (next found target))
    {start : β} (begun : I [] start) (folded : γ) :
    Ends (audience.fold size none step folded) world fun result _ =>
      (∃ counted, result = .ok counted) →
        Ends (audience.fold size none next start) other fun result after => after = other ∧
          ∃ found, result = .ok found ∧ I (audience.met size world.store) found := by
  refine (walk_follows created ascending same 
    (fun done target found _ holds => ⟨_, rfl, keeps done target found holds⟩) begun folded).mono ?_
  intro result _ follows through
  rw [fold, ends_bind, ends_lift]
  refine (follows through).mono ?_
  rintro _ _ ⟨rfl, found, rfl, holds⟩
  exact ⟨rfl, found, rfl, holds⟩

end Follows

/-- Counting finds the number of the targets that are met, unless it fails. -/
theorem count_met {world : World σ α} (created : world.store.created = true)
    (ascending : Ascending ((world.store.targets audience.kind).map Target.id)) :
    Ends (audience.count size) world fun result _ =>
      ∀ count, result = .ok count → count = (audience.met size world.store).length := by
  intro count counts
  have follows : Ends (audience.count size) world fun result after => after = world ∧
      ∃ found, result = .ok found ∧ found = (audience.met size world.store).length :=
    fold_follows created ascending rfl (I := fun done count => count = done.length)
      (fun done target found holds => by rw [holds, List.length_append, List.length_singleton])
      rfl 0 ⟨count, counts⟩
  obtain ⟨_, found, same, holds⟩ := follows
  rw [← holds]
  exact Except.ok.inj (counts.symm.trans same)

end Herald.Audience
