import Herald.Text.Digit
import Herald.Text.Printable

/-! # Quoted text

Two quoted forms. Data texts stand between double quotes, with only the quote, the backslash and
the ASCII controls escaped. Report texts prefer single quotes, change to double ones when the text
holds a single quote and no double one, and escape everything that is not printable.
-/

namespace Herald.Text

/-- A hexadecimal digit in lower case. -/
def hexDigit (value : Nat) : Char :=
  if value < 10 then Char.ofNat (48 + value) else Char.ofNat (87 + value)

/-- The last `width` hexadecimal digits of a number. -/
def hexChars : Nat → Nat → List Char
  | 0, _ => []
  | width + 1, number => hexChars width (number / 16) ++ [hexDigit (number % 16)]

/-- One character of a data text. -/
def dataChar (c : Char) : List Char :=
  if c == '"' then ['\\', '"']
  else if c == '\\' then ['\\', '\\']
  else if c == '\n' then ['\\', 'n']
  else if c == '\r' then ['\\', 'r']
  else if c == '\t' then ['\\', 't']
  else if c.toNat == 8 then ['\\', 'b']
  else if c.toNat == 12 then ['\\', 'f']
  else if c.toNat < 32 then ['\\', 'u'] ++ hexChars 4 c.toNat
  else [c]

/-- A data text between double quotes. -/
def dataQuoted (chars : List Char) : List Char :=
  ['"'] ++ chars.flatMap dataChar ++ ['"']

/-- One character of a report text between quotes of the given kind. -/
def reportChar (quote c : Char) : List Char :=
  if c == quote || c == '\\' then ['\\', c]
  else if c == '\n' then ['\\', 'n']
  else if c == '\r' then ['\\', 'r']
  else if c == '\t' then ['\\', 't']
  else if isPrintable c then [c]
  else if c.toNat < 0x100 then ['\\', 'x'] ++ hexChars 2 c.toNat
  else if c.toNat < 0x10000 then ['\\', 'u'] ++ hexChars 4 c.toNat
  else ['\\', 'U'] ++ hexChars 8 c.toNat

/-- The quote that a report text is written between. -/
def reportQuote (chars : List Char) : Char :=
  if chars.contains '\'' && !chars.contains '"' then '"' else '\''

/-- A report text between quotes. -/
def reportQuoted (chars : List Char) : List Char :=
  let quote := reportQuote chars
  [quote] ++ chars.flatMap (reportChar quote) ++ [quote]

/-- Parts with a separator between them. -/
def joined (separator : List Char) : List (List Char) → List Char
  | [] => []
  | [part] => part
  | part :: rest => part ++ separator ++ joined separator rest

end Herald.Text
