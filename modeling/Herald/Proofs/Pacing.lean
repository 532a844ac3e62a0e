import Herald.Proofs.Abreast
import Herald.Proofs.Encounters
import Herald.Proofs.Visits

/-! # Passes that keep pace

Two passes over the same targets are compared target by target. Whether a target is passed over does
not depend on who is asked or on how messages end, so only the targets that are sent something have
to be looked at. What is known of two passes may depend on the encounters of the first one.
-/

namespace Herald.Pass

variable {σ τ α : Type}

/-- What two passes that have come equally far have in common, where the first one is noted: it
shows both of them the same campaign, and it remains when both pass over a target. -/
structure KeepsPace
    (V : Progress × List (Encounter σ α) → World σ α → Progress → World τ α → Prop) : Prop where
  status_eq : ∀ {noted world progress other}, V noted world progress other → ∀ id,
    ((Lifecycle.status? id : Run τ α (Option CampaignStatus)).run.run other).1 =
      ((Lifecycle.status? id : Run σ α (Option CampaignStatus)).run.run world).1
  note : ∀ {noted world progress other}, V noted world progress other → ∀ encounter,
    encounter.PassesOver → V (noted.1, noted.2 ++ [encounter]) world progress other
  skip : ∀ {noted world progress other}, V noted world progress other →
    V ({ noted.1 with skipped := noted.1.skipped + 1 }, noted.2) world
      { progress with skipped := progress.skipped + 1 } other
  stop : ∀ {noted world progress other}, V noted world progress other → ∀ stopped,
    V ({ noted.1 with stopped }, noted.2) world { progress with stopped } other

variable [Amount α]

/-- The visit of a target that is sent its messages. -/
def attend (engine : Engine σ α) (campaign : Campaign α) (isTest : Bool) (progress : Progress)
    (target : TargetRecord) : Steady σ α (Visit Progress) := do
  let (tally, served) ←
    serve engine campaign isTest target (channelsFor campaign.reach target) progress.tally false
  afterTarget campaign target { progress with eligible := progress.eligible + 1, tally } served

/-- A target that is sent its messages counts as one that the pass was to reach. -/
theorem attend_eligible (engine : Engine σ α) (campaign : Campaign α) (isTest : Bool)
    (progress : Progress) (target : TargetRecord) (world : World σ α) :
    Leads (attend engine campaign isTest progress target) world fun visited _ =>
      visited.found.eligible = progress.eligible + 1 := by
  rw [attend, leads_bind]
  refine (leads_true _ _).mono ?_
  rintro ⟨tally, served⟩ middle -
  refine (afterTarget_leads campaign target _ served middle).mono ?_
  rintro visited after ⟨goesOn, -⟩
  cases goesOn <;> rfl

namespace KeepsPace

variable {V : Progress × List (Encounter σ α) → World σ α → Progress → World τ α → Prop}
  {engine : Engine σ α} {other : Engine τ α} {campaign : Campaign α} {isTest isTest' : Bool}
  {Good : List (Encounter σ α) → Prop}

/-- A visit of both passes, behind which the encounter of the first one has been noted. -/
def Goes (V : Progress × List (Encounter σ α) → World σ α → Progress → World τ α → Prop)
    (noted : Progress × List (Encounter σ α)) (encounter : Encounter σ α)
    (visited' : Visit Progress) (after' : World τ α) : Prop :=
  encounter.visit.Matches (fun found found' =>
    V (found, noted.2 ++ [encounter]) encounter.after found' after') visited'

/-- Passes that keep pace where they attend to a target keep pace at every target. -/
theorem visit (keeps : KeepsPace V) {noted : Progress × List (Encounter σ α)} {progress' : Progress}
    {world : World σ α} {world' : World τ α} (paces : V noted world progress' world')
    (excluded : List Int) (target : TargetRecord)
    (attends : Leads (attend engine campaign isTest noted.1 target) world fun visited after =>
      Leads (attend other campaign isTest' progress' target) world' fun visited' after' =>
        Good (noted.2 ++ [⟨target, noted.1, visited, world, after⟩]) →
          Goes V noted ⟨target, noted.1, visited, world, after⟩ visited' after') :
    Leads (visit engine campaign isTest excluded noted.1 target) world fun visited after =>
      Leads (Pass.visit other campaign isTest' excluded progress' target) world'
        fun visited' after' => Good (noted.2 ++ [⟨target, noted.1, visited, world, after⟩]) →
          Goes V noted ⟨target, noted.1, visited, world, after⟩ visited' after' := by
  have passed : ∀ {visited}, visited.found.eligible = noted.1.eligible →
      visited.found.tally = noted.1.tally →
        Encounter.PassesOver ⟨target, noted.1, visited, world, world⟩ :=
    fun eligible tally => ⟨rfl, eligible, tally⟩
  rw [Pass.visit, Pass.visit, leads_bind_both,
    leads_iff_of_still (Lifecycle.status?_moves campaign.id),
    leads_iff_of_still (Lifecycle.status?_moves campaign.id), keeps.status_eq paces campaign.id]
  cases ((Lifecycle.status? campaign.id : Run σ α _).run.run world).1 with
  | error failure => exact fun _ => .giveUp failure (keeps.note paces _ (passed rfl rfl))
  | ok status =>
    dsimp only
    by_cases cancelled : (status == some .cancelled) = true
    · rw [if_pos cancelled, if_pos cancelled]
      exact fun _ => .stop (keeps.note (keeps.stop paces _) _ (passed rfl rfl))
    rw [if_neg cancelled, if_neg cancelled]
    by_cases excludes : excluded.contains target.id = true
    · rw [if_pos excludes, if_pos excludes]
      exact fun _ => .next (keeps.note (keeps.skip paces) _ (passed rfl rfl))
    rw [if_neg excludes, if_neg excludes]
    by_cases none : (channelsFor campaign.reach target).isEmpty = true
    · rw [if_pos none, if_pos none]
      exact fun _ => .next (keeps.note paces _ (passed rfl rfl))
    rw [if_neg none, if_neg none]
    exact attends

/-- The visits of both passes go on in the same way, as long as the encounters are good. -/
theorem visits (keeps : KeepsPace V)
    (back : ∀ encounters encounter, Good (encounters ++ [encounter]) → Good encounters)
    (attends : ∀ noted progress' target world world', V noted world progress' world' →
      Leads (attend engine campaign isTest noted.1 target) world fun visited after =>
        Leads (attend other campaign isTest' progress' target) world' fun visited' after' =>
          Good (noted.2 ++ [⟨target, noted.1, visited, world, after⟩]) →
            Goes V noted ⟨target, noted.1, visited, world, after⟩ visited' after')
    (excluded : List Int) :
    Audience.VisitsAbreast V (fun noted => Good noted.2)
      (noting (Pass.visit engine campaign isTest excluded))
      (Pass.visit other campaign isTest' excluded) where
  back noted target world := by
    rw [noting_leads]
    refine (leads_true _ _).mono fun visited after _ good =>
      back noted.2 ⟨target, noted.1, visited, world, after⟩ ?_
    cases visited <;> exact good
  steps noted progress' target world world' paces := by
    rw [noting_leads]
    refine (keeps.visit paces excluded target (attends noted progress' target world world'
      paces)).mono fun visited after same => same.mono fun visited' after' same good => ?_
    have goes : Goes V noted ⟨target, noted.1, visited, world, after⟩ visited' after' := by
      refine same ?_
      cases visited <;> exact good
    cases goes with
    | next belong => exact .next belong
    | stop belong => exact .stop belong
    | giveUp failure belong => exact .giveUp failure belong

end KeepsPace

end Herald.Pass
