import Herald.Value.Reading

/-! # Depth of values

Lists and records can be nested as deep as one likes, but not every use of a value can follow. A
text of a value and a stored value have a limit far above what any tenant needs; the limit of a
filter that is submitted with a campaign is lower.
-/

namespace Herald.Value

mutual

/-- How many values deep a value is: one by itself, and one more for every list or record around
it. -/
def depth : Value → Nat
  | .list items => itemsDepth items + 1
  | .record fields => fieldsDepth fields + 1
  | _ => 1

/-- The depth of the deepest item. -/
def itemsDepth : List Value → Nat
  | [] => 0
  | item :: rest => max (depth item) (itemsDepth rest)

/-- The depth of the deepest field. -/
def fieldsDepth : List (String × Value) → Nat
  | [] => 0
  | (_, value) :: rest => max (depth value) (fieldsDepth rest)

end

/-- The depth up to which a value has a text and can be stored. -/
def deepestWritten : Nat := 980

/-- The depth up to which a value can be part of a submitted filter. -/
def deepestSubmitted : Nat := 255

/-- Whether a value is too deep to be written. -/
def isTooDeep (value : Value) : Bool := deepestWritten < value.depth

/-- The text of a value, unless it is too deep. -/
def written (value : Value) : Except Refusal String :=
  if value.isTooDeep then .error .tooDeep else .ok value.shown

end Herald.Value
