import PadScript.Tool
import Std.Time.Zoned

/-!
# The command line on a machine

What the program needs of a machine, and its entry point.
-/

namespace PadScript

def systemError : IO.Error → UInt32 × String
  | .alreadyExists _ code text | .invalidArgument _ code text | .permissionDenied _ code text
  | .resourceExhausted _ code text | .inappropriateType _ code text | .noSuchThing _ code text
  | .interrupted _ code text | .noFileOrDirectory _ code text => (code, text)
  | .otherError code text | .resourceBusy code text | .resourceVanished code text
  | .unsupportedOperation code text | .hardwareFault code text | .unsatisfiedConstraints code text
  | .illegalOperation code text | .protocolError code text | .timeExpired code text => (code, text)
  | .unexpectedEof => (0, "end of file")
  | .userError text => (0, text)

/-- Some errors carry their number with its sign changed. -/
def faultOf (error : IO.Error) : Fault :=
  let (code, text) := systemError error
  match min code (0 - code) with
  | 0 => ⟨.other, text⟩
  | 2 => .notFound
  | 17 => .alreadyExists
  | 20 => .notDirectory
  | 21 => .isDirectory
  | number =>
    ⟨if number = 32 then .brokenPipe else .other,
      text ++ " (os error " ++ toString number ++ ")"⟩

def attempt {α : Type} (action : IO α) : IO (Except Fault α) := do
  try return .ok (← action)
  catch error => return .error (faultOf error)

/-- Longest sleep at a time, in milliseconds. -/
def longestSleep : Nat := 10

instance : Platform IO where
  Device := IO.FS.Handle
  readText path := do
    match ← attempt (IO.FS.readBinFile path) with
    | .error fault => return .error fault
    | .ok bytes =>
      match String.fromUTF8? bytes with
      | some text => return .ok text
      | none => return .error .notText
  writeText path text := attempt (IO.FS.writeFile path text)
  makeFolders path := attempt (IO.FS.createDirAll path)
  openDevice path := attempt (IO.FS.Handle.mk path .readWrite)
  writeDevice device bytes := attempt do
    device.write (ByteArray.mk bytes.toArray)
    device.flush
    return device
  workFolder := do
    try return (← IO.currentDir).toString
    catch _ => return "."
  appendText path text := attempt do (← IO.FS.Handle.mk path .append).putStr text
  timeOfDay := do
    try
      let time ← Std.Time.PlainTime.now
      return ⟨time.hour.toNat, time.minute.toNat, time.second.toNat⟩
    catch _ => return ⟨0, 0, 0⟩
  outside := return { now := ← IO.monoNanosNow, stopRequested := false }
  rest deadline := do
    let left := (deadline - (← IO.monoNanosNow)).toMillis
    if 0 < left then IO.sleep (UInt32.ofNat (min left longestSleep))
  print := IO.print
  printError := IO.eprint

partial def Tool.finish (tool : Tool (Tool.Device IO)) : IO UInt32 := do
  match tool with
  | .exited status => return status
  | tool => Tool.finish (← tool.step)

end PadScript

def main (args : List String) : IO UInt32 := do
  PadScript.Tool.finish (← PadScript.Tool.ofArguments args)
