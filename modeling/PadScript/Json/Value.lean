import PadScript.Json.Token
import PadScript.Text.Hex

/-!
# JSON values

`Json.parse?` reads a text; a stack of the brackets that are open takes one token
after the other. `Json.quote` writes a string.
-/

namespace PadScript

namespace Json

/-- The characters of a string; `none` if half a surrogate pair is among them. -/
abbrev Text := Option (List Char)

inductive Value
  | null
  | bool (value : Bool)
  | number (text : List Char)
  | string (chars : Text)
  | array (elements : List Value)
  | object (members : List (Text × Value))

/-- A bracket that is open, with what stands in it so far, last first. -/
inductive Frame
  | array (elements : List Value)
  /-- The member after the finished ones has this key. -/
  | object (members : List (Text × Value)) (key : Text)

inductive Expecting
  | value (stack : List Frame)
  | elementOrEnd (stack : List Frame)
  | keyOrEnd (stack : List Frame)
  | key (stack : List Frame) (members : List (Text × Value))
  | colon (stack : List Frame) (members : List (Text × Value)) (key : Text)
  | afterValue (stack : List Frame) (value : Value)

namespace Expecting

def beginValue (stack : List Frame) : Token → Option Expecting
  | .null => some (afterValue stack .null)
  | .bool b => some (afterValue stack (.bool b))
  | .number text => some (afterValue stack (.number text))
  | .string chars => some (afterValue stack (.string chars))
  | .openBracket => some (elementOrEnd stack)
  | .openBrace => some (keyOrEnd stack)
  | .closeBrace | .closeBracket | .comma | .colon => none

def step : Expecting → Token → Option Expecting
  | value stack, token => beginValue stack token
  | elementOrEnd stack, token =>
    if token = .closeBracket then some (afterValue stack (.array []))
    else beginValue (.array [] :: stack) token
  | keyOrEnd stack, token =>
    match token with
    | .closeBrace => some (afterValue stack (.object []))
    | .string chars => some (colon stack [] chars)
    | _ => none
  | key stack members, token =>
    match token with
    | .string chars => some (colon stack members chars)
    | _ => none
  | colon stack members chars, token =>
    if token = .colon then some (value (.object members chars :: stack)) else none
  | afterValue (.array elements :: stack) v, token =>
    match token with
    | .comma => some (value (.array (v :: elements) :: stack))
    | .closeBracket => some (afterValue stack (.array (v :: elements).reverse))
    | _ => none
  | afterValue (.object members chars :: stack) v, token =>
    match token with
    | .comma => some (key stack ((chars, v) :: members))
    | .closeBrace => some (afterValue stack (.object ((chars, v) :: members).reverse))
    | _ => none
  | afterValue [] _, _ => none

def finished? : Expecting → Option Value
  | afterValue [] v => some v
  | _ => none

end Expecting

def parse? (text : String) : Option Value := do
  let tokens ← Token.lex? text.toList
  let last ← tokens.foldlM Expecting.step (.value [])
  last.finished?

def quoteChar (c : Char) : List Char :=
  match c with
  | '"' => ['\\', '"']
  | '\\' => ['\\', '\\']
  | '\x08' => ['\\', 'b']
  | '\x0c' => ['\\', 'f']
  | '\n' => ['\\', 'n']
  | '\r' => ['\\', 'r']
  | '\t' => ['\\', 't']
  | c =>
    if c < ' ' then '\\' :: 'u' :: (PadScript.Text.hex 4 c.toNat).map Char.toLower else [c]

def quote (text : String) : String :=
  String.ofList ('"' :: text.toList.flatMap quoteChar ++ ['"'])

end Json

end PadScript
