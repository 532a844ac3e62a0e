import Herald.Pass.Compose
import Herald.Ledger.Balance
import Herald.Campaign.Tally

/-! # Sending one message

A message is paid for before its provider is asked, and logged before anything else happens. If it
did not go out, the payment is given back: a rejection and a transport failure are logged as failed
messages, and any other failure ends the pass. A simulated message costs nothing, asks nobody and
is logged as delivered.
-/

namespace Herald

/-- What became of one message of a pass. -/
inductive Sent
  | charged (cost : Decimal)
  | simulated
  | rejected
  deriving DecidableEq

/-- Whether the message went out. -/
def Sent.isSuccess : Sent → Bool
  | .rejected => false
  | _ => true

/-- A tally with one more message. -/
def Tally.record (tally : Tally) (channel : Channel) : Sent → Except Failure Tally
  | .charged cost => tally.success channel cost false
  | .simulated => tally.success channel .zero true
  | .rejected => .ok (tally.failure channel)

namespace Send

variable {σ α : Type} [Amount α]

/-- The log row of a message, without what became of it. -/
def row (campaign : Campaign α) (target : TargetRecord) (channel : Channel) (message : Composed)
    (recipient : String) (isTest : Bool) (now : Moment) (id : Int) : Message α where
  id := id
  tenant := campaign.tenant
  campaign := campaign.id
  target := target.kind.name
  targetId := target.id
  channel := channel
  recipient := recipient
  sender := campaign.content.senderOn channel
  subject := message.subject
  content := message.content
  segments := message.segments
  cost := Amount.zero
  providerCost := none
  status := .failed
  isTest := isTest
  providerId := none
  error := none
  sentAt := none
  deliveredAt := none
  createdAt := now

/-- The tables with a message added to the log. -/
def logIn (message : Int → Except Failure (Message α)) (store : Store α) :
    Except Failure (Unit × Store α) := do
  let message ← message (nextId (store.messages.map Message.id))
  return ((), { store with messages := store.messages ++ [message] })

/-- The row of a message that went out. -/
def sentRow (row : Message α) (cost : Decimal) (outcome : Outcome) (now : Moment) :
    Except Failure (Message α) := do
  let cost ← BalanceLedger.stored cost
  let providerCost ← outcome.cost.mapM BalanceLedger.stored
  return { row with
    status := .sent, cost, providerCost, providerId := outcome.providerId, sentAt := some now }

/-- Ask the provider of a channel; in test mode nobody is asked. -/
def deliver (engine : Engine σ α) (channel : Channel) (message : Outgoing) : Run σ α Outcome := do
  let provider := engine.provider channel
  if engine.settings.testMode then return .simulated
  let request ← Run.pure? (provider.request message)
  let reply ← engine.exchange request
  Run.pure? (provider.outcome reply)

/-- The outcome of asking a provider: transport failures become failed messages, and for any other
failure the payment is given back. -/
def settle (engine : Engine σ α) (tenant : String) (cost : Decimal) (channel : Channel)
    (message : Outgoing) : Run σ α Outcome := do
  match ← Run.attempt (deliver engine channel message) with
  | .ok outcome => return outcome
  | .error failure =>
    match failure with
    | .transportTimeout _ _ => return .failed failure.text "timeout"
    | .transportFailure _ _ => return .failed failure.text "transport_error"
    | failure =>
      BalanceLedger.refund tenant cost
      throw failure

/-- Log a simulated message. -/
def simulate (row : Moment → Int → Message α) : Run σ α Sent := do
  let now ← Run.clock
  Run.commit (logIn fun id => .ok { row now id with
    status := .delivered, providerId := some "mock-#", sentAt := some now
    deliveredAt := some now })
  return .simulated

/-- Pay for a message, send it and log it. -/
def sendLive (engine : Engine σ α) (tenant : String) (channel : Channel) (cost : Decimal)
    (outgoing : Outgoing) (row : Moment → Int → Message α) : Run σ α Sent := do
  if !(← BalanceLedger.deduct tenant cost) then throw (.insufficientBalance tenant cost)
  let outcome ← settle engine tenant cost channel outgoing
  if outcome.success then
    let now ← Run.clock
    Run.commit (logIn fun id => sentRow (row now id) cost outcome now)
    return .charged cost
  else
    BalanceLedger.refund tenant cost
    let now ← Run.clock
    Run.commit (logIn fun id => .ok { row now id with error := outcome.errorMessage })
    return .rejected

/-- Send one message of a campaign to a target. -/
def message (engine : Engine σ α) (campaign : Campaign α) (isTest : Bool) (target : TargetRecord)
    (channel : Channel) : Run σ α Sent := do
  let composed ← Run.pure? (Composed.of engine.settings campaign.content target.attributes channel)
  let recipient := Text.trimmed ((target.contact channel).getD "")
  let row := row campaign target channel composed recipient isTest
  if isTest then simulate row
  else
    let outgoing := composed.outgoing campaign.content recipient channel
    sendLive engine campaign.tenant channel composed.cost outgoing row

end Send

end Herald
