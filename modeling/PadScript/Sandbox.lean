import PadScript.Files
import PadScript.Tool

/-!
# The program in memory

A tree of files, a clock that moves only when it is looked at or slept on, and
what was shown on the terminal. On it the whole program is a function.
-/

namespace PadScript

structure Sandbox where
  /-- The absolute path of the folder whose files these are. -/
  root : String := "/work"
  files : Files := {}
  clock : Time := 0
  stopRequested : Bool := false
  printed : String := ""
  errors : String := ""

namespace Sandbox

structure Device where
  parts : List String
  position : Nat := 0

def pathInTree (sandbox : Sandbox) (path : String) : String :=
  let root := (sandbox.root ++ "/").toList
  if root.isPrefixOf path.toList then String.ofList (path.toList.drop root.length) else path

/-- How far the clock moves when it is looked at. -/
def tick : Time := 1000

def putFiles (change : Files → String → Except Fault Files) (path : String) :
    StateM Sandbox (Except Fault Unit) := fun sandbox =>
  match change sandbox.files (sandbox.pathInTree path) with
  | .ok files => (.ok (), { sandbox with files })
  | .error fault => (.error fault, sandbox)

instance : Platform (StateM Sandbox) where
  Device := Device
  readText path := fun sandbox => (sandbox.files.readText (sandbox.pathInTree path), sandbox)
  writeText path text := putFiles (fun files path => files.writeText path text) path
  makeFolders path := putFiles Files.makeFolders path
  openDevice path := fun sandbox =>
    ((sandbox.files.openFile (sandbox.pathInTree path)).map fun parts => { parts }, sandbox)
  writeDevice device bytes := fun sandbox =>
    (.ok { device with position := device.position + bytes.length },
      { sandbox with files := sandbox.files.patchFile device.parts device.position bytes })
  workFolder := fun sandbox => (sandbox.root, sandbox)
  appendText path text := putFiles (fun files path => files.appendText path text) path
  timeOfDay := pure ⟨0, 0, 0⟩
  outside := fun sandbox =>
    ({ now := sandbox.clock, stopRequested := sandbox.stopRequested },
      { sandbox with clock := sandbox.clock + tick })
  rest deadline := fun sandbox => ((), { sandbox with clock := max sandbox.clock deadline })
  print text := fun sandbox => ((), { sandbox with printed := sandbox.printed ++ text })
  printError text := fun sandbox => ((), { sandbox with errors := sandbox.errors ++ text })

end Sandbox

end PadScript
