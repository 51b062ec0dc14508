import PadScript.FileSystem
import PadScript.Recorder

/-!
# Outputs

The pad is plugged into a device file; without one, or on request, a recorder
stands in for it. Both take any bytes, and both are closed once at the end: the
device with a last frame that releases everything, the recorder by a dump.
-/

namespace PadScript

/-- An output, given what an open device is. -/
inductive Output (δ : Type)
  | device (path : String) (device : δ)
  | recorder (recorder : Recorder) (folder file : String)

namespace Output

variable {m : Type → Type} [Monad m] [FileSystem m]

def deviceTag : String := "device"

def dumpFile : String := "frames.txt"

def «open» (device : Option String) (recordOnly : Bool) (folder : String) :
    m (Except Report (Output (FileSystem.Device m)) × List LogEntry) := do
  match device, recordOnly with
  | some path, false =>
    match ← FileSystem.openDevice path with
    | .ok opened => return (.ok (.device path opened), [⟨.info, deviceTag, "opened " ++ path⟩])
    | .error fault =>
      return (.error ((Report.ofFault fault).within ("opening device " ++ path)), [])
  | _, _ => return (.ok (.recorder {} folder dumpFile), [])

def write (output : Output (FileSystem.Device m)) (bytes : List UInt8) :
    m (Except Fault (Output (FileSystem.Device m)) × List LogEntry) := do
  match output with
  | .device path opened =>
    match ← FileSystem.writeDevice opened bytes with
    | .ok opened => return (.ok (.device path opened), [])
    | .error fault => return (.error fault, [])
  | .recorder writes folder file =>
    return (.ok (.recorder (writes.write bytes) folder file), [Recorder.writeEntry bytes])

/-- Releases everything on a device; writes the dump of a recorder. -/
def close (output : Output (FileSystem.Device m)) :
    m (Except Report (Output (FileSystem.Device m)) × List LogEntry) := do
  match output with
  | .device path opened =>
    match ← FileSystem.writeDevice opened Buttons.released.frame with
    | .ok opened => return (.ok (.device path opened), [⟨.info, deviceTag, "closed " ++ path⟩])
    | .error fault =>
      return (.error ((Report.ofFault fault).within ("releasing buttons on " ++ path)), [])
  | .recorder writes folder file =>
    let path := folder ++ "/" ++ file
    let _ ← (FileSystem.makeFolders folder : m _)
    match ← FileSystem.writeText path writes.dump with
    | .ok () => return (.ok output, [writes.dumpEntry path])
    | .error fault =>
      return (.error ((Report.ofFault fault).within ("writing frame dump " ++ path)), [])

end Output

end PadScript
