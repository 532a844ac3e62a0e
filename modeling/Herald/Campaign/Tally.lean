import Herald.Store

/-! # Tallies

What one pass adds to the aggregates of its campaign, collected beside the store and written in one
piece.
-/

namespace Herald

/-- What a pass has counted on one channel. -/
structure ChannelTally where
  sent : Nat
  delivered : Nat
  failed : Nat
  cost : Decimal
  deriving DecidableEq

/-- What a pass has counted. -/
structure Tally where
  sms : ChannelTally
  email : ChannelTally
  deriving DecidableEq

namespace ChannelTally

def empty : ChannelTally := ⟨0, 0, 0, .zero⟩

/-- Count a message that went out. -/
def success (tally : ChannelTally) (cost : Decimal) (delivered : Bool) :
    Except Failure ChannelTally :=
  match tally.cost.add cost with
  | .ok total =>
    .ok { tally with
      sent := tally.sent + 1, cost := total
      delivered := tally.delivered + (if delivered then 1 else 0) }
  | .error signal => .error (.ofSignal signal)

/-- Count a message that did not go out. -/
def failure (tally : ChannelTally) : ChannelTally := { tally with failed := tally.failed + 1 }

def isEmpty (tally : ChannelTally) : Bool :=
  tally.sent == 0 && tally.delivered == 0 && tally.failed == 0 && tally.cost.isZero

/-- Add the counts to stored aggregates. A cost without a stored form refuses the write. -/
def addTo {α : Type} [Amount α] (tally : ChannelTally) (aggregates : Aggregates α) :
    Except Failure (Aggregates α) :=
  let cost? :=
    if tally.cost.isZero then some aggregates.cost
    else (Amount.ofDecimal? tally.cost).bind (Amount.add? aggregates.cost)
  match cost? with
  | some cost =>
    .ok ⟨aggregates.sent.plus tally.sent, aggregates.delivered.plus tally.delivered,
      aggregates.failed.plus tally.failed, cost⟩
  | none => .error .refusedRow

end ChannelTally

namespace Tally

def empty : Tally := ⟨.empty, .empty⟩

/-- The counts of a channel. -/
def channel (tally : Tally) : Channel → ChannelTally
  | .sms => tally.sms
  | .email => tally.email

/-- Replace the counts of a channel. -/
def withChannel (tally : Tally) (channel : Channel) (counts : ChannelTally) : Tally :=
  match channel with
  | .sms => { tally with sms := counts }
  | .email => { tally with email := counts }

def success (tally : Tally) (channel : Channel) (cost : Decimal) (delivered : Bool) :
    Except Failure Tally :=
  ((tally.channel channel).success cost delivered).map (tally.withChannel channel)

def failure (tally : Tally) (channel : Channel) : Tally :=
  tally.withChannel channel (tally.channel channel).failure

def isEmpty (tally : Tally) : Bool := tally.sms.isEmpty && tally.email.isEmpty

end Tally

end Herald
