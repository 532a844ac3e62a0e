import Herald.Pass.Execute

/-! # Looking ahead

What a pass would do, without doing it: the messages to the first targets, how many targets it would
reach on which channel, and what stands in its way.
-/

namespace Herald

/-- A message that a pass would send. -/
structure MessagePreview where
  targetId : Int
  channel : Channel
  recipient : Option String
  content : String
  subject : Option String
  segments : Option Nat
  attributes : Fields

/-- The messages to the first targets of a pass. -/
structure Preview where
  total : Nat
  eligible : Nat
  messages : List MessagePreview

/-- How many targets a pass would reach. -/
structure EligibleCounts where
  total : Nat
  inCooldown : Nat
  eligible : Nat
  sms : Nat
  email : Nat
  both : Nat
  deriving DecidableEq

namespace Forecast

variable {σ α : Type} [Amount α]

/-- What a forecast looks at: the audience of a campaign and the targets left out. -/
def prepare (campaign : Campaign α) : Run σ α (Audience × List Int) := do
  let predicate ← Pass.compile campaign
  let excluded ← Pass.excludedTargets campaign
  return (← audienceOf campaign.tenant predicate, excluded)

/-- The preview of a target's message on a channel. -/
def messagePreview (settings : Settings) (campaign : Campaign α) (keys : List String)
    (target : TargetRecord) (channel : Channel) : Except Failure MessagePreview := do
  let message ← Composed.of settings campaign.content target.attributes channel
  return ⟨target.id, channel, target.contact channel, message.content, message.subject,
    message.segments, keys.map fun key => (key, target.attributes.getOrNull key)⟩

/-- Add a target to a preview; only the first targets are shown. -/
def previewTarget (settings : Settings) (campaign : Campaign α) (keys : List String)
    (excluded : List Int) (limit : Int) (preview : Preview) (target : TargetRecord) :
    Visit Preview :=
  let preview := { preview with total := preview.total + 1 }
  if excluded.contains target.id then .next preview
  else
    let preview := { preview with eligible := preview.eligible + 1 }
    if limit < preview.eligible then .next preview
    else
      match (channelsFor campaign.reach target).mapM
          (messagePreview settings campaign keys target) with
      | .ok messages => .next { preview with messages := preview.messages ++ messages }
      | .error failure => .giveUp preview failure

/-- The messages that a pass would send to its first targets. -/
def preview (engine : Engine σ α) (campaign : Campaign α) (limit : Int) : Run σ α Preview := do
  let (audience, excluded) ← prepare campaign
  let keys := audience.predicate.keys
  let walked : Steady σ α (Preview × Option Failure) :=
    audience.walk engine.batchSize none
      (fun preview target =>
        return previewTarget engine.settings campaign keys excluded limit preview target)
      ⟨0, 0, []⟩
  let (preview, failure?) ← walked
  match failure? with
  | some failure => throw failure
  | none => return preview

/-- Count a target. -/
def countTarget (excluded : List Int) (counts : EligibleCounts) (target : TargetRecord) :
    EligibleCounts :=
  let counts := { counts with total := counts.total + 1 }
  if excluded.contains target.id then { counts with inCooldown := counts.inCooldown + 1 }
  else
    let one := fun condition : Bool => if condition then 1 else 0
    { counts with
      eligible := counts.eligible + 1
      sms := counts.sms + one target.hasPhone
      email := counts.email + one target.hasEmail
      both := counts.both + one (target.hasPhone && target.hasEmail) }

/-- How many targets a pass would reach. -/
def eligibleCounts (engine : Engine σ α) (campaign : Campaign α) : Run σ α EligibleCounts := do
  let (audience, excluded) ← prepare campaign
  audience.fold engine.batchSize none (countTarget excluded) ⟨0, 0, 0, 0, 0, 0⟩

/-! ## Before a pass -/

/-- A decimal result, or the failure of its signal. -/
def signaled (found : Except Decimal.Signal Decimal) : Run σ α Decimal :=
  match found with
  | .ok number => return number
  | .error signal => throw (.ofSignal signal)

/-- What a pass would cost, going by the length of the template. -/
def estimatedCost (settings : Settings) (campaign : Campaign α) (counts : EligibleCounts) :
    Except Decimal.Signal Decimal := do
  let sms ← if campaign.reach.needsPhone then do
      let template := campaign.content.template.getD ""
      Decimal.add .zero (← Sms.estimate settings.sizes settings.smsPrice template counts.sms)
    else pure .zero
  if campaign.reach.needsEmail then
    sms.add (← Decimal.mul (.ofInt counts.email) settings.emailPrice)
  else return sms

/-- What is missing in a campaign itself. -/
def contentProblems (campaign : Campaign α) : List String :=
  let content := campaign.content
  (if campaign.status.isRunnable then []
    else [s!"Campaign cannot be executed. Status: {campaign.status.name}"]) ++
  (if campaign.reach.needsPhone && !(Draft.isGiven content.template && Draft.isGiven content.sender)
    then ["SMS template and sender are required"] else []) ++
  (if campaign.reach.needsEmail && !(Draft.isGiven content.emailSubject &&
      Draft.isGiven content.emailBody && Draft.isGiven content.emailSender)
    then ["Email subject, body and sender are required"] else [])

/-- The sentence about variables that are not attributes. -/
def unknownVariables (kind template : String) (known : List String) : List String :=
  match Template.unknown template known with
  | [] => []
  | names => [s!"Undefined variables in {kind} template: " ++ String.intercalate ", " names]

/-- The variables of a campaign's texts that are not attributes. -/
def templateProblems (campaign : Campaign α) (known : List String) : List String :=
  let content := campaign.content
  (if campaign.reach.needsPhone then unknownVariables "SMS" (content.template.getD "") known
    else []) ++
  (if campaign.reach.needsEmail then
      unknownVariables "email"
        ((content.emailSubject.getD "") ++ " " ++ (content.emailBody.getD "")) known
    else [])

/-- Whether the tenant could pay for a pass. -/
def balanceProblems (engine : Engine σ α) (campaign : Campaign α) (counts : EligibleCounts) :
    Run σ α (List String) := do
  let estimate ← signaled (estimatedCost engine.settings campaign counts)
  let balance ← BalanceLedger.balance campaign.tenant
  match balance.order? estimate with
  | none => throw .undefinedNumber
  | some .lt =>
    return [s!"Insufficient balance: estimated cost {estimate.text}, balance {balance.text}"]
  | some _ => return []

/-- The schema and the compiled filter of a campaign, or what is wrong with them. -/
def checkedSchema (campaign : Campaign α) : Run σ α AttributeSchema := do
  let schema ← Registry.load campaign.tenant campaign.target
  let _ ← Run.pure? (Predicate.compileRaw schema campaign.filter)
  return schema

/-- What stands in the way of a pass; nothing if it can run. -/
def problems (engine : Engine σ α) (campaign : Campaign α) (skipBalance : Bool) :
    Run σ α (List String) := do
  let problems := contentProblems campaign
  match ← Run.attempt (checkedSchema campaign) with
  | .error (.violation violation) =>
    return problems ++ [s!"Invalid filter: {violation.message}"]
  | .error failure => throw failure
  | .ok schema =>
    let problems := problems ++ templateProblems campaign schema.keys
    let counts ← eligibleCounts engine campaign
    let problems :=
      problems ++ (if counts.eligible = 0 then ["No eligible targets match the filter"] else [])
    if skipBalance || Pass.isMock engine.settings campaign || counts.eligible = 0 then
      return problems
    else return problems ++ (← balanceProblems engine campaign counts)

end Forecast

end Herald
