import Herald.Value

/-! # Sameness of stored values

Writing a value over one that is the same changes nothing. Truth values count as the integers zero
and one, numbers of different kinds are the same if they are equal, and the order of a record's
fields does not matter. What is not a number is the same as nothing.
-/

namespace Herald.Value

/-- Whether a double is the same as an integer. -/
def sameInt (double : Binary64) (number : Int) : Bool := double.toInt? == some number

/-- The integer of a truth value. -/
def flagInt (flag : Bool) : Int := if flag then 1 else 0

/-- The exact decimal that a double equals: two to a negative power is five to it over ten to it. -/
def exactDecimal : Binary64 → Decimal
  | .nan => .nan false false 0
  | .infinite negative => .infinite negative
  | .finite negative units =>
    let fives := Number.tenPow Binary64.unitBits / Number.twoPow Binary64.unitBits
    .finite negative (units * fives) (-(Binary64.unitBits : Int))

/-- Whether a decimal is the same as another value. -/
def sameDecimal (number : Decimal) : Value → Bool
  | .bool flag => number.order? (.ofInt (flagInt flag)) == some .eq
  | .int other => number.order? (.ofInt other) == some .eq
  | .float other => number.order? (exactDecimal other) == some .eq
  | .decimal other => number.order? other == some .eq
  | _ => false

mutual

/-- Whether two stored values are the same. -/
def same : Value → Value → Bool
  | .null, .null => true
  | .bool a, .bool b => a == b
  | .bool a, .int b => flagInt a == b
  | .int a, .bool b => a == flagInt b
  | .int a, .int b => a == b
  | .float a, .float b => a.eq b
  | .float a, .int b => sameInt a b
  | .int a, .float b => sameInt b a
  | .float a, .bool b => sameInt a (flagInt b)
  | .bool a, .float b => sameInt b (flagInt a)
  | .decimal a, b => sameDecimal a b
  | a, .decimal b => sameDecimal b a
  | .text a, .text b => a == b
  | .date a, .date b => a == b
  | .moment a, .moment b => a == b
  | .list a, .list b => sameItems a b
  | .record a, .record b => a.length == b.length && sameFields a b
  | _, _ => false

/-- Whether two lists hold the same values. -/
def sameItems : List Value → List Value → Bool
  | [], [] => true
  | a :: rest, b :: more => same a b && sameItems rest more
  | _, _ => false

/-- Whether every field is the same in another record. -/
def sameFields : List (String × Value) → List (String × Value) → Bool
  | [], _ => true
  | (name, value) :: rest, fields =>
    (match Fields.get? fields name with
      | some other => same value other
      | none => false) && sameFields rest fields

end

mutual

/-- Whether a value has a stored form of its own: dates, moments and decimals have none. -/
def isStorable : Value → Bool
  | .decimal _ => false
  | .date _ => false
  | .moment _ => false
  | .list items => areStorable items
  | .record fields => haveStorable fields
  | _ => true

/-- Whether all items of a list can be stored. -/
def areStorable : List Value → Bool
  | [] => true
  | item :: rest => isStorable item && areStorable rest

/-- Whether all fields of a record can be stored. -/
def haveStorable : List (String × Value) → Bool
  | [] => true
  | (_, value) :: rest => isStorable value && haveStorable rest

end

end Herald.Value
