import PadScript.FileSystem
import PadScript.Json.Value
import PadScript.Text.Integer

/-!
# Settings

Kept in a file as a JSON object with five fields, each of which may be missing.
A file that cannot be read gives the default settings. `Settings.ofText?` reads
what `Settings.text` writes.
-/

namespace PadScript

structure Settings where
  scriptPath : Option String := none
  device : Option String := none
  /-- Record frames instead of opening the device. -/
  recordOnly : Bool := false
  loopEnabled : Bool := false
  /-- How many passes a loop has; a negative count means until stopped. -/
  loopTimes : Int32 := -1
  deriving DecidableEq, Repr

namespace Settings

/-- How many passes a plain run has; `none` for a single one. -/
def passes (settings : Settings) : Option Int32 :=
  if settings.loopEnabled then some settings.loopTimes else none

/-- The fields in the order in which they are written. -/
inductive Field
  | scriptPath
  | device
  | recordOnly
  | loopEnabled
  | loopTimes
  deriving DecidableEq, Repr

namespace Field

def all : List Field := [scriptPath, device, recordOnly, loopEnabled, loopTimes]

def name : Field → String
  | scriptPath => "macro_path"
  | device => "device"
  | recordOnly => "stub"
  | loopEnabled => "loop_enabled"
  | loopTimes => "loop_times"

def ofName? (name : String) : Option Field := all.find? (·.name == name)

end Field

def pathOfJson? : Json.Value → Option (Option String)
  | .null => some none
  | .string (some chars) => some (some (String.ofList chars))
  | _ => none

def boolOfJson? : Json.Value → Option Bool
  | .bool value => some value
  | _ => none

/-- A number written without point and exponent, in range. Minus zero is no integer. -/
def timesOfJson? : Json.Value → Option Int32
  | .number text => if text = ['-', '0'] then none else Text.int32? (String.ofList text)
  | _ => none

def set? (settings : Settings) (field : Field) (value : Json.Value) : Option Settings :=
  match field with
  | .scriptPath => (pathOfJson? value).map fun path => { settings with scriptPath := path }
  | .device => (pathOfJson? value).map fun path => { settings with device := path }
  | .recordOnly => (boolOfJson? value).map fun b => { settings with recordOnly := b }
  | .loopEnabled => (boolOfJson? value).map fun b => { settings with loopEnabled := b }
  | .loopTimes => (timesOfJson? value).map fun n => { settings with loopTimes := n }

/-- Sets the fields that members name, each at most once. Other members are passed over. -/
def setMembers? (settings : Settings) (seen : List Field) :
    List (Json.Text × Json.Value) → Option Settings
  | [] => some settings
  | (none, _) :: _ => none
  | (some key, value) :: rest =>
    match Field.ofName? (String.ofList key) with
    | none => settings.setMembers? seen rest
    | some field =>
      if field ∈ seen then none
      else do (← settings.set? field value).setMembers? (field :: seen) rest

def setElements? (settings : Settings) : List Field → List Json.Value → Option Settings
  | _, [] => some settings
  | [], _ :: _ => none
  | field :: fields, value :: rest => do (← settings.set? field value).setElements? fields rest

def ofJson? : Json.Value → Option Settings
  | .object members => ({} : Settings).setMembers? [] members
  | .array elements => ({} : Settings).setElements? Field.all elements
  | _ => none

def ofText? (text : String) : Option Settings := do ofJson? (← Json.parse? text)

def load {ε : Type} (found : Except ε String) : Settings :=
  (found.toOption.bind ofText?).getD {}

def pathText : Option String → String
  | some path => Json.quote path
  | none => "null"

def valueText (settings : Settings) : Field → String
  | .scriptPath => pathText settings.scriptPath
  | .device => pathText settings.device
  | .recordOnly => toString settings.recordOnly
  | .loopEnabled => toString settings.loopEnabled
  | .loopTimes => toString settings.loopTimes.toInt

def text (settings : Settings) : String :=
  let line (field : Field) := "\n  " ++ Json.quote field.name ++ ": " ++ settings.valueText field
  "\x7b" ++ ",".intercalate (Field.all.map line) ++ "\n\x7d"

variable {m : Type → Type} [Monad m] [FileSystem m]

def read (path : String) : m Settings := return load (← FileSystem.readText path)

def save (settings : Settings) (path : String) : m (Except Report Unit) := do
  match ← FileSystem.writeText path settings.text with
  | .ok () => return .ok ()
  | .error fault => return .error ((Report.ofFault fault).within ("failed to write " ++ path))

end Settings

end PadScript
