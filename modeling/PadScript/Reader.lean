import PadScript.Draft
import PadScript.Text.Integer

/-!
# Readers of the built-in commands

`Press`, `Wait`, `Start` and `Hit`. Options are written `-x=value` after the other
arguments, in any order and each at most once. The draft is changed only after
everything else has been accepted, so a reader that fails leaves it as it was.
-/

namespace PadScript

/-- The letter and the value of an option. A value is not empty and has no line feed. -/
def splitOption? (arg : String) : Option (Char × String) :=
  match arg.toList with
  | '-' :: letter :: '=' :: value =>
    if letter.isLower ∧ value ≠ [] ∧ '\n' ∉ value then some (letter, String.ofList value) else none
  | _ => none

def readOptionsAfter (letters : List Char) :
    List (Char × String) → List String → Except ReadError (List (Char × String))
  | seen, [] => .ok seen
  | seen, arg :: rest =>
    match splitOption? arg with
    | none => .error .malformedOption
    | some (letter, value) =>
      if letter ∉ letters then .error .malformedOption
      else if (seen.lookup letter).isSome then .error .repeatedOption
      else readOptionsAfter letters ((letter, value) :: seen) rest

def readOptions (letters : List Char) (args : List String) :
    Except ReadError (List (Char × String)) :=
  readOptionsAfter letters [] args

def readNatural (quantity : Quantity) (value : String) : Except ReadError UInt32 :=
  match Text.int32? value with
  | some n => if 0 ≤ n then .ok n.toUInt32 else .error (.notNatural quantity)
  | none => .error (.notNatural quantity)

def readInteger (quantity : Quantity) (value : String) : Except ReadError Int32 :=
  match Text.int32? value with
  | some n => .ok n
  | none => .error (.notInteger quantity)

def readLabel (letter : Char) (value : String) : Except ReadError Label :=
  match Label.ofDigit? value with
  | some label => .ok label
  | none => .error (.notDigit letter)

def readDuration (options : List (Char × String)) (letter : Char) (default : UInt32) :
    Except ReadError UInt32 :=
  match options.lookup letter with
  | some value => readNatural (.option letter) value
  | none => .ok default

def defaultDurationMs : UInt32 := 200

def Reading.claimStart (value : Option String) : Reading (Option Label) := do
  let some value := value | return none
  let label ← readLabel 's' value
  Reading.claim label
  return some label

def Press.readGroups (arg : String) : Except ReadError (List Buttons) :=
  let groups := arg.toList.splitOnP (· == ',')
  match groups.mapM fun group => Buttons.ofChord? (String.ofList group) with
  | some groups => .ok groups
  | none => .error (.unknownGroup arg)

/-- `Press GROUPS [-d=MS] [-i=MS] [-s=LABEL]` -/
def Press.read : Reader := fun args => do
  let groupsArg :: optionArgs := args | throw .argumentCount
  if optionArgs.length > 3 then throw .argumentCount
  let groups ← Press.readGroups groupsArg
  let options ← readOptions ['d', 'i', 's'] optionArgs
  let durationMs ← readDuration options 'd' defaultDurationMs
  let intervalMs ← readDuration options 'i' 0
  let start ← Reading.claimStart (options.lookup 's')
  return .press { groups, durationMs, intervalMs, start }

/-- `Wait MS` -/
def Wait.read : Reader := fun args => do
  let [duration] := args | throw .argumentCount
  let durationMs ← readNatural .waitTime duration
  return .wait { durationMs }

/-- `Start [-s=LABEL]` -/
def Start.read : Reader := fun args => do
  match args with
  | [] => return .start { start := none }
  | [option] =>
    let '-' :: 's' :: '=' :: value := option.toList | throw .malformedOption
    let start ← Reading.claimStart (some (String.ofList value))
    return .start { start }
  | _ => throw .argumentCount

def Hit.readButton (symbol : String) : Except ReadError Buttons :=
  match Buttons.ofSymbol? symbol with
  | some button => .ok button
  | none => .error (.unknownButton symbol)

def Hit.readSource (options : List (Char × String)) : Except ReadError Label :=
  match options.lookup 'l' with
  | some value => readLabel 'l' value
  | none => .ok 0

def Hit.correct (frame : UInt32) (correction : Int32) : UInt32 :=
  UInt32.ofNat (frame.toNat + correction.toInt).toNat

def Hit.readCorrection (options : List (Char × String)) (frame : UInt32) :
    Except ReadError UInt32 :=
  match options.lookup 'c' with
  | some value => (readInteger (.option 'c') value).map (Hit.correct frame)
  | none => .ok frame

/-- `Hit BUTTON FRAME [-l=LABEL] [-d=MS] [-s=LABEL] [-c=FRAMES]` -/
def Hit.read : Reader := fun args => do
  let symbol :: frameArg :: optionArgs := args | throw .argumentCount
  if optionArgs.length > 4 then throw .argumentCount
  let button ← Hit.readButton symbol
  let frame ← readNatural .frame frameArg
  let options ← readOptions ['l', 'd', 's', 'c'] optionArgs
  let durationMs ← readDuration options 'd' defaultDurationMs
  let label ← Hit.readSource options
  unless (← get).isStarted label do throw (.notStarted label)
  let frame ← Hit.readCorrection options frame
  let start ← Reading.claimStart (options.lookup 's')
  modify fun draft => draft.addHit label frame
  return .hit { button, frame, label, durationMs, start }

end PadScript
