import Herald.Text.Blank

/-! # E-mail

Which texts are e-mail addresses, and the layout that a rendered body is put into. Body and sender
are escaped, so a recipient sees the text as it was written and no value can add markup.
-/

namespace Herald.Email

open Text

/-! ## Addresses -/

/-- Whether a character may stand in a part of an address. -/
def isAddressChar (c : Char) : Bool := c != '@' && !isBlank c

def isLetter (c : Char) : Bool := ('a' ≤ c && c ≤ 'z') || ('A' ≤ c && c ≤ 'Z')

/-- A domain ends in a dot and at least two letters, and has something before them. -/
def isDomain (domain : List Char) : Bool :=
  let label := (domain.reverse.takeWhile (· != '.')).reverse
  let before := domain.take (domain.length - label.length)
  domain.all isAddressChar && label.all isLetter && 2 ≤ label.length && 2 ≤ before.length

/-- Whether a text without surrounding blanks is an e-mail address. -/
def isAddressChars (address : List Char) : Bool :=
  let name := address.takeWhile isAddressChar
  match address.dropWhile isAddressChar with
  | '@' :: domain => !name.isEmpty && isDomain domain
  | _ => false

/-- Whether a text is an e-mail address; blanks around it do not count. -/
def isAddress (address : String) : Bool := isAddressChars (trim address.toList)

/-! ## Layout -/

/-- A character as it stands in a document. -/
def escapedChar (c : Char) : List Char :=
  if c = '&' then "&amp;".toList
  else if c = '<' then "&lt;".toList
  else if c = '>' then "&gt;".toList
  else if c = '"' then "&quot;".toList
  else if c = '\'' then "&#x27;".toList
  else [c]

/-- A text as it stands in a document. -/
def escaped (text : List Char) : List Char := text.flatMap escapedChar

/-- A text whose lines end in line feeds alone. -/
def unixLines : List Char → List Char
  | [] => []
  | '\r' :: '\n' :: rest => '\n' :: unixLines rest
  | c :: rest => c :: unixLines rest

/-- A line break of the text becomes one of the document. -/
def brokenChar (c : Char) : List Char := if c = '\n' then "<br>\n".toList else [c]

/-- A body as it stands in a document. -/
def bodyMarkup (body : List Char) : List Char :=
  (escaped (unixLines body)).flatMap brokenChar

/-- The document up to the sender. -/
def layoutHead : String :=
  "<!DOCTYPE html>\n" ++
  "<html>\n" ++
  "<head>\n" ++
  "    <meta charset=\"UTF-8\">\n" ++
  "    <meta name=\"viewport\" content=\"width=device-width, initial-scale=1.0\">\n" ++
  "</head>\n" ++
  "<body style=\"margin: 0; padding: 0; font-family: Arial, Helvetica, sans-serif; " ++
    "background-color: #f3f4f6;\">\n" ++
  "    <div style=\"max-width: 600px; margin: 0 auto; padding: 30px; " ++
    "background-color: #ffffff;\">\n" ++
  "        <h1 style=\"margin: 0 0 20px; font-size: 22px;\">"

/-- The document between the sender and the body. -/
def layoutMiddle : String :=
  "</h1>\n" ++
  "        <div style=\"color: #4B5563; font-size: 15px; line-height: 1.6;\">"

/-- The document after the body. -/
def layoutFoot : String :=
  "</div>\n" ++
  "    </div>\n" ++
  "</body>\n" ++
  "</html>\n"

/-- The document of a body and the name of its sender. -/
def document (body sender : String) : String :=
  layoutHead ++ String.ofList (escaped sender.toList) ++ layoutMiddle ++
    String.ofList (bodyMarkup body.toList) ++ layoutFoot

end Herald.Email
