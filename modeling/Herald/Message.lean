import Herald.Channel
import Herald.Calendar.Moment
import Herald.Store.Amount

/-! # Messages

The log of attempts: one row for each message that a provider was asked to send, or that a
simulated pass stands in for.
-/

namespace Herald

/-- What became of a message. -/
inductive MessageStatus
  | sent
  | delivered
  | failed
  deriving DecidableEq

namespace MessageStatus

def name : MessageStatus → String
  | .sent => "sent"
  | .delivered => "delivered"
  | .failed => "failed"

/-- Whether the target was reached. -/
def isSuccess : MessageStatus → Bool
  | .failed => false
  | _ => true

end MessageStatus

/-- A stored message. -/
structure Message (α : Type) where
  id : Int
  tenant : String
  campaign : Int
  target : String
  targetId : Int
  channel : Channel
  recipient : String
  sender : Option String
  subject : Option String
  content : String
  segments : Option Nat
  cost : α
  providerCost : Option α
  status : MessageStatus
  isTest : Bool
  providerId : Option String
  error : Option String
  sentAt : Option Moment
  deliveredAt : Option Moment
  createdAt : Moment

end Herald
