import Herald.Value

/-! # Reading data text

The reader of the data text that `Value.dataChars` writes, with blanks allowed between its parts.
A number with a point or an exponent is a double, any other an integer of any size. A name that
is given twice keeps its first place and its last value.
-/

namespace Herald.Json

open Text

def isSpace (c : Char) : Bool := c == ' ' || c == '\n' || c == '\r' || c == '\t'

def skipSpaces (chars : List Char) : List Char := chars.dropWhile isSpace

/-- The value of a hexadecimal digit. -/
def hexValue? (c : Char) : Option Nat :=
  let code := c.toNat
  if 48 ≤ code ∧ code ≤ 57 then some (code - 48)
  else if 97 ≤ code ∧ code ≤ 102 then some (code - 87)
  else if 65 ≤ code ∧ code ≤ 70 then some (code - 55)
  else none

/-- Four hexadecimal digits from the front. -/
def fourHex? : List Char → Option (Nat × List Char)
  | a :: b :: c :: d :: rest =>
    match hexValue? a, hexValue? b, hexValue? c, hexValue? d with
    | some a, some b, some c, some d => some (((a * 16 + b) * 16 + c) * 16 + d, rest)
    | _, _, _, _ => none
  | _ => none

/-- The character of an escape letter. -/
def escaped? (c : Char) : Option Char :=
  match c with
  | '"' => some '"'
  | '\\' => some '\\'
  | '/' => some '/'
  | 'b' => some (Char.ofNat 8)
  | 'f' => some (Char.ofNat 12)
  | 'n' => some '\n'
  | 'r' => some '\r'
  | 't' => some '\t'
  | _ => none

/-- The rest of a text after its opening quote. Two halves of a pair of code units are one
character; a half alone is replaced. -/
def string? : Nat → List Char → List Char → Option (List Char × List Char)
  | 0, _, _ => none
  | _ + 1, read, '"' :: rest => some (read.reverse, rest)
  | fuel + 1, read, '\\' :: 'u' :: rest =>
    match fourHex? rest with
    | none => none
    | some (high, rest) =>
      if 0xD800 ≤ high ∧ high < 0xDC00 then
        match rest with
        | '\\' :: 'u' :: tail =>
          match fourHex? tail with
          | some (low, tail) =>
            if 0xDC00 ≤ low ∧ low < 0xE000 then
              string? fuel (Char.ofNat (0x10000 + (high - 0xD800) * 0x400 + (low - 0xDC00)) :: read)
                tail
            else string? fuel ('\uFFFD' :: read) rest
          | none => none
        | _ => string? fuel ('\uFFFD' :: read) rest
      else if 0xDC00 ≤ high ∧ high < 0xE000 then string? fuel ('\uFFFD' :: read) rest
      else string? fuel (Char.ofNat high :: read) rest
  | fuel + 1, read, '\\' :: c :: rest =>
    match escaped? c with
    | some character => string? fuel (character :: read) rest
    | none => none
  | fuel + 1, read, c :: rest => string? fuel (c :: read) rest
  | _ + 1, _, [] => none

/-- Characters that numbers are written with. -/
def isNumberChar (c : Char) : Bool :=
  (plainDigit? c).isSome || c == '-' || c == '+' || c == '.' || c == 'e' || c == 'E'

/-- A number from its characters. -/
def number? (chars : List Char) : Option Value :=
  let (negative, body) := match chars with
    | '-' :: rest => (true, rest)
    | rest => (false, rest)
  if chars.any fun c => c == '.' || c == 'e' || c == 'E' then
    (Decimal.scientific? body).map fun (coefficient, exponent) =>
      .float (Binary64.ofScientific negative coefficient exponent)
  else
    match Decimal.natural? body with
    | some number => some (.int (if negative then -(number : Int) else number))
    | none => none

/-- A word with a value of its own, and what follows it. -/
def word? (chars : List Char) : Option (Value × List Char) :=
  let words : List (String × Value) :=
    [("null", .null), ("true", .bool true), ("false", .bool false), ("NaN", .float .nan),
      ("Infinity", .float (.infinite false)), ("-Infinity", .float (.infinite true))]
  words.findSome? fun (word, value) =>
    if word.toList.isPrefixOf chars then some (value, chars.drop word.length) else none

mutual

/-- A value from the front. -/
def value? : Nat → List Char → Option (Value × List Char)
  | 0, _ => none
  | fuel + 1, chars =>
    match skipSpaces chars with
    | '"' :: rest =>
      match string? (rest.length + 1) [] rest with
      | some (content, rest) => some (.text (String.ofList content), rest)
      | none => none
    | '[' :: rest =>
      match skipSpaces rest with
      | ']' :: rest => some (.list [], rest)
      | rest => items? fuel [] rest
    | '\x7b' :: rest =>
      match skipSpaces rest with
      | '\x7d' :: rest => some (.record [], rest)
      | rest => fields? fuel [] rest
    | chars =>
      match word? chars with
      | some found => some found
      | none =>
        match number? (chars.takeWhile isNumberChar) with
        | some number => some (number, chars.dropWhile isNumberChar)
        | none => none

/-- The items of a list after the opening bracket, the last one read first in `read`. -/
def items? : Nat → List Value → List Char → Option (Value × List Char)
  | 0, _, _ => none
  | fuel + 1, read, chars =>
    match value? fuel chars with
    | none => none
    | some (item, rest) =>
      match skipSpaces rest with
      | ',' :: rest => items? fuel (item :: read) rest
      | ']' :: rest => some (.list (item :: read).reverse, rest)
      | _ => none

/-- The fields of a record after the opening brace. -/
def fields? : Nat → Fields → List Char → Option (Value × List Char)
  | 0, _, _ => none
  | fuel + 1, read, chars =>
    match skipSpaces chars with
    | '"' :: rest =>
      match string? (rest.length + 1) [] rest with
      | none => none
      | some (name, rest) =>
        match skipSpaces rest with
        | ':' :: rest =>
          match value? fuel rest with
          | none => none
          | some (value, rest) =>
            let read := read.put (String.ofList name) value
            match skipSpaces rest with
            | ',' :: rest => fields? fuel read rest
            | '\x7d' :: rest => some (.record read, rest)
            | _ => none
        | _ => none
    | _ => none

end

/-- Read a whole data text. -/
def ofText? (text : String) : Option Value :=
  match value? (text.length + 1) text.toList with
  | some (value, rest) => if (skipSpaces rest).isEmpty then some value else none
  | none => none

end Herald.Json
