import PadScript.Buttons
import PadScript.Log
import PadScript.Text.Hex

/-!
# The recording output

Stands in for the pad: it keeps every write, and on closing dumps them as a text
with one line per write. A write is any row of bytes; those that are frames have
a button state.
-/

namespace PadScript

def hexText (bytes : List UInt8) : String :=
  " ".intercalate (bytes.map fun byte => String.ofList (Text.hexByte byte))

structure Recorder where
  writes : Array (List UInt8) := #[]
  deriving DecidableEq, Repr

namespace Recorder

def write (recorder : Recorder) (bytes : List UInt8) : Recorder := ⟨recorder.writes.push bytes⟩

/-- The button states written, without the writes that are no frames. -/
def states (recorder : Recorder) : List Buttons := recorder.writes.toList.filterMap Buttons.ofFrame?

def dump (recorder : Recorder) : String :=
  String.join (recorder.writes.toList.map fun bytes => hexText bytes ++ "\n")

def tag : String := "stub"

def writeEntry (bytes : List UInt8) : LogEntry :=
  match Buttons.ofFrame? bytes with
  | some buttons => ⟨.info, tag, hexText bytes ++ " (" ++ buttons.show ++ ")"⟩
  | none => ⟨.info, tag, hexText bytes⟩

def dumpEntry (recorder : Recorder) (path : String) : LogEntry :=
  ⟨.info, tag, "dumped " ++ toString recorder.writes.size ++ " frame(s) to " ++ path⟩

@[simp] theorem toList_write (recorder : Recorder) (bytes : List UInt8) :
    (recorder.write bytes).writes.toList = recorder.writes.toList ++ [bytes] := by simp [write]

theorem states_write (recorder : Recorder) (bytes : List UInt8) :
    (recorder.write bytes).states = recorder.states ++ (Buttons.ofFrame? bytes).toList := by
  cases h : Buttons.ofFrame? bytes <;> simp [states, h, List.filterMap_append]

end Recorder

end PadScript
