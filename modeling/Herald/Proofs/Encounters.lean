import Herald.Proofs.Beginning
import Herald.Proofs.Listing

/-! # The encounters of a pass

What a pass makes of each of its targets. A pass does not keep that; `noting` is its visitor with a
note of every visit. The walk with notes is the walk of the pass, so what holds of any visit that
the walk could make holds of each encounter.
-/

namespace Herald.Pass

variable {σ α : Type}

/-- The visit of a target: what the pass had done before it, what it has made of the target, and the
worlds before and after. -/
structure Encounter (σ α : Type) where
  target : TargetRecord
  progress : Progress
  visit : Visit Progress
  before : World σ α
  after : World σ α

/-- The pass has tried no message to the target: it has written nothing, and the target counts for
none of those that it was to reach. -/
structure Encounter.PassesOver (encounter : Encounter σ α) : Prop where
  after_eq : encounter.after = encounter.before
  eligible_eq : encounter.visit.found.eligible = encounter.progress.eligible
  tally_eq : encounter.visit.found.tally = encounter.progress.tally

/-- A visitor that notes its visits. -/
def noting (visit : Progress → TargetRecord → Steady σ α (Visit Progress))
    (noted : Progress × List (Encounter σ α)) (target : TargetRecord) :
    Steady σ α (Visit (Progress × List (Encounter σ α))) := do
  let before ← get
  let visited ← visit noted.1 target
  let after ← get
  let encounter : Encounter σ α := ⟨target, noted.1, visited, before, after⟩
  return visited.map fun progress => (progress, noted.2 ++ [encounter])

theorem noting_leads {visit : Progress → TargetRecord → Steady σ α (Visit Progress)}
    {noted : Progress × List (Encounter σ α)} {target : TargetRecord} {world : World σ α}
    {after : Visit (Progress × List (Encounter σ α)) → World σ α → Prop} :
    Leads (noting visit noted target) world after ↔
      Leads (visit noted.1 target) world fun visited later =>
        after (visited.map fun progress =>
          (progress, noted.2 ++ [⟨target, noted.1, visited, world, later⟩])) later := Iff.rfl

variable [Amount α]

/-- The walk of a pass with its encounters. -/
def Setting.noted (setting : Setting α) (engine : Engine σ α) :
    Steady σ α ((Progress × List (Encounter σ α)) × Option Failure) :=
  setting.audience.walk engine.batchSize setting.limit
    (noting (visit engine setting.campaign setting.isTest setting.excluded)) (.start, [])

/-- The encounters of a pass. -/
def encounters (engine : Engine σ α) (id : Int) (world : World σ α) : List (Encounter σ α) :=
  match (start engine id).run world with
  | (.walks setting, middle) => ((setting.noted engine).run middle).1.1.2
  | _ => []

theorem encounters_of_start {engine : Engine σ α} {id : Int} {world middle : World σ α}
    {setting : Setting α} (started : (start engine id).run world = (.walks setting, middle)) :
    encounters engine id world = ((setting.noted engine).run middle).1.1.2 := by
  rw [encounters, started]

/-- Notes change nothing about a walk. -/
theorem Setting.walk_iff_noted {setting : Setting α} {engine : Engine σ α} {world : World σ α}
    {after : Progress × Option Failure → World σ α → Prop} :
    Leads (setting.walk engine) world after ↔
      Leads (setting.noted engine) world fun result => after (result.1.1, result.2) := by
  have same : ∀ (noted : Progress × List (Encounter σ α)) target world
      (after : Visit Progress → World σ α → Prop),
      Leads (visit engine setting.campaign setting.isTest setting.excluded noted.1 target) world
          after ↔
        Leads (noting (visit engine setting.campaign setting.isTest setting.excluded) noted target)
          world fun visited => after (visited.map Prod.fst) := by
    intro noted target world after
    rw [noting_leads]
    refine Leads.congr (leads_true _ _) fun visited later _ => ?_
    cases visited <;> exact Iff.rfl
  exact Audience.walk_map same (Progress.start, []) world after

/-- What holds of every visit that the walk of a pass could make holds of its encounters. -/
theorem encounters_all {engine : Engine σ α} {id : Int} {world : World σ α}
    {P : Encounter σ α → Prop}
    (holds : ∀ setting middle, Walks engine id world setting middle →
      ∀ progress target before, target.kind = setting.audience.kind →
        Leads (visit engine setting.campaign setting.isTest setting.excluded progress target) before
          fun visited after => P ⟨target, progress, visited, before, after⟩) :
    ∀ encounter ∈ encounters engine id world, P encounter := by
  have begins := start_leads engine id world
  unfold Leads at begins
  unfold encounters
  rcases begun : (start engine id).run world with
    ⟨failure | ⟨campaign, isTest, count, failure⟩ | setting, middle⟩ <;> rw [begun] at begins
  · exact fun _ member => by cases member
  · exact fun _ member => by cases member
  · refine Audience.walk_leads
      (I := fun (noted : Progress × List (Encounter σ α)) (_ : World σ α) =>
        ∀ encounter ∈ noted.2, P encounter) ?_ (fun _ member => by cases member)
    intro noted target before kind kept
    rw [noting_leads]
    refine Leads.mono (holds setting middle begins noted.1 target before kind) ?_
    intro visited after new
    have all : ∀ encounter ∈ noted.2 ++ [⟨target, noted.1, visited, before, after⟩], P encounter := by
      intro encounter member
      rcases List.mem_append.mp member with old | added
      · exact kept encounter old
      · rw [List.mem_singleton.mp added]
        exact new
    cases visited <;> exact all

/-- A target that is left out is passed over. -/
theorem visit_excluded {engine : Engine σ α} {campaign : Campaign α} {isTest : Bool}
    {excluded : List Int} {progress : Progress} {target : TargetRecord} {world : World σ α}
    (excludes : excluded.contains target.id = true) :
    Leads (visit engine campaign isTest excluded progress target) world fun visited after =>
      Encounter.PassesOver ⟨target, progress, visited, world, after⟩ := by
  rw [visit, leads_bind]
  refine leads_of_still (Lifecycle.status?_moves campaign.id) fun status => ?_
  cases status with
  | error failure => exact ⟨rfl, rfl, rfl⟩
  | ok status =>
    dsimp only
    split
    · exact ⟨rfl, rfl, rfl⟩
    · exact ⟨rfl, rfl, rfl⟩

end Herald.Pass
