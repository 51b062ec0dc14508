import PadScript.Fault

/-!
# A tree of files

Files and folders under one folder, as far as programs that read, replace and
patch whole files can tell. Operations fail the way an operating system does:
every folder on the way must be there and be a folder.
-/

namespace PadScript

inductive Node
  | file (bytes : ByteArray)
  | folder

structure Files where
  /-- Paths below the root by their parts; the root itself is not listed. -/
  nodes : List (List String × Node) := []

namespace Files

def node? (files : Files) (parts : List String) : Option Node :=
  if parts.isEmpty then some .folder else files.nodes.lookup parts

def put (files : Files) (parts : List String) (node : Node) : Files :=
  ⟨(parts, node) :: files.nodes.filter (·.1 != parts)⟩

def longestName : Nat := 255

def staysUp (parts : List String) : Bool := parts.all (· ∈ ["", ".", ".."])

def walk (files : Files) (here : List String) : List String → Except Fault (List String)
  | [] => .ok here
  | part :: rest =>
    match files.node? here with
    | none => .error .notFound
    | some (.file _) => .error .notDirectory
    | some .folder =>
      if part = "" ∨ part = "." then files.walk here rest
      else if part = ".." then
        if here.isEmpty ∧ ¬ staysUp rest then .error .notFound else files.walk here.dropLast rest
      else if longestName < part.utf8ByteSize then .error .nameTooLong
      else files.walk (here ++ [part]) rest

def partsOf (path : String) : List String :=
  (path.toList.splitOnP (· == '/')).map String.ofList

def longestPath : Nat := 4095

/-- Follows the first parts of a path; the last of them need not be there. What is not
below the root of the tree is not there, but for the folders above it. -/
def follow (files : Files) (path : String) (parts : List String) : Except Fault (List String) :=
  if '\x00' ∈ path.toList then .error .nulInName
  else if path.isEmpty then .error .notFound
  else if longestPath < path.utf8ByteSize then .error .nameTooLong
  else if path.startsWith "/" ∧ ¬ staysUp parts then .error .notFound
  else files.walk [] parts

def resolve (files : Files) (path : String) : Except Fault (List String) :=
  files.follow path (partsOf path)

def folderParts (path : String) : List String :=
  ((partsOf path).reverse.dropWhile (· == "")).tail.reverse

/-- Where a file can be put. A path with a slash at its end names a folder in any case,
and only the folder that it would be in is looked at. -/
def place (files : Files) (path : String) : Except Fault (List String) := do
  if path.endsWith "/" then
    match files.node? (← files.follow path (folderParts path)) with
    | some .folder => throw .isDirectory
    | some (.file _) => throw .notDirectory
    | none => throw .notFound
  else
    let parts ← files.resolve path
    match files.node? parts with
    | some .folder => throw .isDirectory
    | _ => return parts

def read (files : Files) (path : String) : Except Fault ByteArray := do
  match files.node? (← files.resolve path) with
  | some (.file bytes) => return bytes
  | some .folder => throw .isDirectory
  | none => throw .notFound

def readText (files : Files) (path : String) : Except Fault String := do
  match String.fromUTF8? (← files.read path) with
  | some text => return text
  | none => throw .notText

def write (files : Files) (path : String) (bytes : ByteArray) : Except Fault Files := do
  return files.put (← files.place path) (.file bytes)

def writeText (files : Files) (path text : String) : Except Fault Files :=
  files.write path text.toUTF8

def appendText (files : Files) (path text : String) : Except Fault Files := do
  let parts ← files.place path
  match files.node? parts with
  | some (.file bytes) => return files.put parts (.file (bytes ++ text.toUTF8))
  | _ => return files.put parts (.file text.toUTF8)

def openFile (files : Files) (path : String) : Except Fault (List String) := do
  let parts ← files.resolve path
  match files.node? parts with
  | some (.file _) => return parts
  | some .folder => throw .isDirectory
  | none => throw .notFound

def patch (bytes : ByteArray) (position : Nat) (new : List UInt8) : ByteArray :=
  let before := bytes.extract 0 position
  let gap := ByteArray.mk (Array.replicate (position - bytes.size) 0)
  let after := bytes.extract (position + new.length) bytes.size
  before ++ gap ++ ByteArray.mk new.toArray ++ after

def patchFile (files : Files) (parts : List String) (position : Nat) (new : List UInt8) : Files :=
  match files.node? parts with
  | some (.file bytes) => files.put parts (.file (patch bytes position new))
  | _ => files

def makeFolder (files : Files) (parts : List String) : Except Fault Files :=
  match files.node? parts with
  | some .folder => .ok files
  | some (.file _) => .error .alreadyExists
  | none => .ok (files.put parts .folder)

def makeFolders (files : Files) (path : String) : Except Fault Files :=
  let rec go (files : Files) (here : List String) : List String → Except Fault Files
    | [] => .ok files
    | part :: rest =>
      match files.node? here with
      | some (.file _) => .error .notDirectory
      | _ =>
        if part = "" ∨ part = "." then go files here rest
        else if part = ".." then go files here.dropLast rest
        else do
          let files ← files.makeFolder (here ++ [part])
          go files (here ++ [part]) rest
  go files [] (partsOf path)

end Files

end PadScript
