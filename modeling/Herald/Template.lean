import Herald.Attribute.Basic
import Herald.Value.Depth

/-! # Message templates

A template is text with variables written `\x7b\x7bname\x7d\x7d`. It is split once, from left to
right, into literal characters and variables; rendering, listing the variables and looking for
unknown ones are all questions about the pieces, so they agree on what a variable is, and a value
that is put in is never looked at again.
-/

namespace Herald.Template

/-- A piece of a template. -/
inductive Piece
  | literal (c : Char)
  | placeholder (name : List Char)
  deriving DecidableEq

/-- How a piece is written. -/
def Piece.written : Piece → List Char
  | .literal c => [c]
  | .placeholder name => ['\x7b', '\x7b'] ++ name ++ ['\x7d', '\x7d']

/-- The name of the variable at the start of a text, if one is written there: a name is a non-empty
run of key characters, and it goes as far as it can. -/
def variableAt? (chars : List Char) : Option (List Char) :=
  match chars with
  | '\x7b' :: '\x7b' :: rest =>
    let name := rest.takeWhile AttributeSpec.isKeyChar
    if name.isEmpty then none
    else match rest.dropWhile AttributeSpec.isKeyChar with
      | '\x7d' :: '\x7d' :: _ => some name
      | _ => none
  | _ => none

/-- The pieces of a text whose first `covered` characters belong to a piece already. -/
def piecesAfter (covered : Nat) : List Char → List Piece
  | [] => []
  | c :: rest =>
    match covered with
    | more + 1 => piecesAfter more rest
    | 0 =>
      match variableAt? (c :: rest) with
      | some name => .placeholder name :: piecesAfter (name.length + 3) rest
      | none => .literal c :: piecesAfter 0 rest

/-- The pieces of a template. -/
def pieces (template : List Char) : List Piece := piecesAfter 0 template

/-- A piece with its variable filled in. A variable without an entry stays as it is written. -/
def Piece.rendered (values : Fields) : Piece → List Char
  | .literal c => [c]
  | .placeholder name =>
    match values.get? (String.ofList name) with
    | some value => value.shown.toList
    | none => (Piece.placeholder name).written

/-- A template with its variables filled in. -/
def render (template : String) (values : Fields) : String :=
  String.ofList ((pieces template.toList).flatMap (Piece.rendered values))

/-- The name of a variable. -/
def Piece.name? : Piece → Option String
  | .literal _ => none
  | .placeholder name => some (String.ofList name)

/-- The names of a template's variables in the order of their first use. -/
def variableNames (template : String) : List String :=
  ((pieces template.toList).filterMap Piece.name?).eraseDups

/-- A template with its variables filled in, unless a value that it needs is too deep. -/
def fill (template : String) (values : Fields) : Except Value.Refusal String :=
  if (variableNames template).any fun name => (values.getOrNull name).isTooDeep then .error .tooDeep
  else .ok (render template values)

/-- The variables of a template that are not among the known names. -/
def unknown (template : String) (known : List String) : List String :=
  (variableNames template).filter fun name => !known.contains name

end Herald.Template
