import Herald.Number.Arithmetic
import Herald.Number.Binary64

/-! # Text messages

A text message is sent in segments. A message that fits the first size takes one; a longer one is
spread over segments of the continuation size, which leave room for joining them. A message with
any character beyond ASCII is sent in another alphabet, with sizes of its own. Length counts code
points.
-/

namespace Herald

/-- How many characters fit one segment: one that stands alone, and one of several. -/
structure SegmentSizes where
  first : Nat
  further : Nat
  first_pos : 0 < first
  further_pos : 0 < further
  deriving DecidableEq

/-- Whether the share of a segment that a length fills is too small for a double: at most half of
the smallest one. -/
def isVanishing (length size : Nat) : Bool :=
  length * Number.twoPow (Binary64.unitBits + 1) ≤ size

/-- The least number of segments that hold a message of a length. A message that is no measurable
share of a continuation segment takes none. -/
def SegmentSizes.count (sizes : SegmentSizes) (length : Nat) : Nat :=
  if length = 0 then 0
  else if length ≤ sizes.first then 1
  else if isVanishing length sizes.further then 0
  else (length + sizes.further - 1) / sizes.further

/-- The sizes of the two alphabets. -/
structure SmsSizes where
  plain : SegmentSizes
  unicode : SegmentSizes
  deriving DecidableEq

namespace Sms

/-- Whether a message needs the larger alphabet. -/
def needsUnicode (message : List Char) : Bool := message.any fun c => 127 < c.toNat

/-- The sizes that apply to a message. -/
def sizesFor (sizes : SmsSizes) (message : List Char) : SegmentSizes :=
  if needsUnicode message then sizes.unicode else sizes.plain

/-- How many segments a message takes. -/
def segments (sizes : SmsSizes) (message : String) : Nat :=
  (sizesFor sizes message.toList).count message.length

/-- What a number of segments costs. -/
def segmentCost (count : Int) (price : Decimal) : Except Decimal.Signal Decimal :=
  Decimal.mul (.ofInt count) price

/-- What a message costs. -/
def cost (sizes : SmsSizes) (price : Decimal) (message : String) :
    Except Decimal.Signal Decimal :=
  segmentCost (segments sizes message) price

/-- Whether a character is a control character. -/
def isControl (c : Char) : Bool := c.toNat < 32 || (127 ≤ c.toNat && c.toNat < 160)

/-- The first characters up to a limit; a negative limit counts from the end. -/
def cut (limit : Int) (chars : List Char) : List Char :=
  chars.take (if limit < 0 then (chars.length + limit).toNat else limit.toNat)

/-- The limit of a message: the given one, unless it is zero or missing. -/
def limitOr (default : Int) : Option Int → Int
  | some limit => if limit = 0 then default else limit
  | none => default

/-- A message without control characters other than line feeds, cut to a limit. -/
def sanitize (limit : Int) (message : String) : String :=
  String.ofList (cut limit (message.toList.filter fun c => c == '\n' || !isControl c))

/-- A rough cost of sending a template to a number of targets, in whole cents. -/
def estimate (sizes : SmsSizes) (price : Decimal) (template : String) (count : Int) :
    Except Decimal.Signal Decimal := do
  let exact ← segmentCost (count * segments sizes template) price
  exact.toCents

end Sms

end Herald
