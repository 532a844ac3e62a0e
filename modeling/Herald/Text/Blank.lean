/-! # Blank characters

What surrounds a written value and is dropped before it is read: the ASCII blanks and the four
information separators, the next-line character, and every space and line or paragraph separator
of other scripts. Around integers and doubles the information separators do not count as blank.
-/

namespace Herald.Text

/-- Whether a character is blank. -/
def isBlank (c : Char) : Bool :=
  let code := c.toNat
  (0x09 ≤ code && code ≤ 0x0D) || (0x1C ≤ code && code ≤ 0x20) || code == 0x85 || code == 0xA0 ||
    code == 0x1680 || (0x2000 ≤ code && code ≤ 0x200A) || code == 0x2028 || code == 0x2029 ||
    code == 0x202F || code == 0x205F || code == 0x3000

/-- Whether a character is one of the four information separators. -/
def isSeparator (c : Char) : Bool :=
  0x1C ≤ c.toNat && c.toNat ≤ 0x1F

/-- Whether a character may surround an integer or a double: a blank, but no separator. -/
def isNumberBlank (c : Char) : Bool := isBlank c && !isSeparator c

/-- Drop the characters of a kind at both ends. -/
def trimAll (drop : Char → Bool) (chars : List Char) : List Char :=
  ((chars.dropWhile drop).reverse.dropWhile drop).reverse

/-- Drop the blanks at both ends. -/
def trim (chars : List Char) : List Char := trimAll isBlank chars

/-- Drop what may surround a number at both ends. -/
def trimNumber (chars : List Char) : List Char := trimAll isNumberBlank chars

/-- A text without the blanks at its ends. -/
def trimmed (text : String) : String :=
  String.ofList (trim text.toList)

/-- Whether a text holds anything but blanks. -/
def isFilled (text : String) : Bool :=
  text.toList.any fun c => !isBlank c

end Herald.Text
