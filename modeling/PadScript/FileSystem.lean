import PadScript.Fault

/-!
# Files and devices as the program uses them

A file system is given by its actions in a monad, so that the same program text
runs on the machine and on a tree of files in memory.
-/

namespace PadScript

class FileSystem (m : Type → Type) where
  /-- A device that is open for writing. -/
  Device : Type
  readText (path : String) : m (Except Fault String)
  writeText (path text : String) : m (Except Fault Unit)
  makeFolders (path : String) : m (Except Fault Unit)
  openDevice (path : String) : m (Except Fault Device)
  writeDevice (device : Device) (bytes : List UInt8) : m (Except Fault Device)

end PadScript
