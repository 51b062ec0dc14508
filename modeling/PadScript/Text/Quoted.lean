import PadScript.Text.Hidden

/-!
# Quoted text

A text between double quotes on which every character can be seen: quotes and
backslashes are escaped, and so are the characters that are not shown.
-/

namespace PadScript.Text

/-- A character as it stands between quotes. A character that is not shown has its
code point in hexadecimal digits, without leading zeros. -/
def escape (c : Char) : List Char :=
  match c with
  | '"' => ['\\', '"']
  | '\\' => ['\\', '\\']
  | '\x00' => ['\\', '0']
  | '\t' => ['\\', 't']
  | '\n' => ['\\', 'n']
  | '\r' => ['\\', 'r']
  | c => if isHidden c then ['\\', 'u', '\x7b'] ++ Nat.toDigits 16 c.toNat ++ ['\x7d'] else [c]

def quoted (text : String) : String :=
  String.ofList (['"'] ++ text.toList.flatMap escape ++ ['"'])

def quotedList (texts : List String) : String := "[" ++ ", ".intercalate (texts.map quoted) ++ "]"

end PadScript.Text
