/-! # Letter case

Words that the engine compares without regard to case are plain ASCII words, and no letter of
another script turns into a letter of one of them, so the ASCII mapping decides the comparison.
-/

namespace Herald.Text

/-- A text with its ASCII letters in upper case. -/
def uppercase (text : String) : String :=
  String.ofList (text.toList.map Char.toUpper)

/-- A text with its ASCII letters in lower case. -/
def lowercase (text : String) : String :=
  String.ofList (text.toList.map Char.toLower)

end Herald.Text
