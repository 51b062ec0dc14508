import PadScript.Text.Words

/-!
# Tokens of a script line

A line is a keyword and its arguments, set apart by blanks. A comma and one space
are read as the comma alone, so that a list may be written either way. A line
without a character that is not blank is empty, and a line whose first such
character is `#` is a comment; neither has tokens.
-/

namespace PadScript

namespace Tokens

/-- Drops the space after a comma, from left to right. -/
def joinCommas : List Char → List Char
  | ',' :: ' ' :: rest => ',' :: joinCommas rest
  | c :: rest => c :: joinCommas rest
  | [] => []

/-- The tokens of a line, `none` for an empty line and for a comment. -/
def ofChars (line : List Char) : Option (List (List Char)) :=
  match Text.trimStart line with
  | [] => none
  | '#' :: _ => none
  | trimmed => some (Text.words (joinCommas trimmed))

end Tokens

def tokenize (line : String) : Option (List String) :=
  (Tokens.ofChars line.toList).map fun tokens => tokens.map String.ofList

end PadScript
