/-!
# Faults of outputs and files

What can go wrong outside the program: the operating system refuses a file, an
output refuses a write. A fault keeps its text, so that it is reported unchanged.
-/

namespace PadScript

inductive FaultKind
  | notFound
  | isDirectory
  | notDirectory
  | alreadyExists
  | invalidData
  | brokenPipe
  | other
  deriving DecidableEq, Repr

structure Fault where
  kind : FaultKind
  text : String
  deriving DecidableEq, Repr

namespace Fault

def notFound : Fault := ⟨.notFound, "No such file or directory (os error 2)"⟩

def isDirectory : Fault := ⟨.isDirectory, "Is a directory (os error 21)"⟩

def notDirectory : Fault := ⟨.notDirectory, "Not a directory (os error 20)"⟩

def alreadyExists : Fault := ⟨.alreadyExists, "File exists (os error 17)"⟩

def nameTooLong : Fault := ⟨.other, "File name too long (os error 36)"⟩

def nulInName : Fault := ⟨.other, "file name contained an unexpected NUL byte"⟩

def notText : Fault := ⟨.invalidData, "stream did not contain valid UTF-8"⟩

end Fault

/-- A failure as reported to the user: what was being done, outermost first, and
why the innermost of it failed. -/
structure Report where
  context : List String
  cause : String
  deriving DecidableEq, Repr

namespace Report

def ofFault (fault : Fault) : Report := ⟨[], fault.text⟩

def within (report : Report) (doing : String) : Report :=
  { report with context := doing :: report.context }

def parts (report : Report) : List String := report.context ++ [report.cause]

def line (report : Report) : String := ": ".intercalate report.parts

/-- A cause below the outermost part, indented under its number if it has one. -/
def causeText (number? : Option Nat) (cause : String) : String :=
  let head := match number? with
    | some n => String.ofList (List.replicate (5 - (toString n).length) ' ') ++ toString n ++ ": "
    | none => "    "
  let indent := if number?.isSome then "\n       " else "\n    "
  head ++ indent.intercalate ((cause.toList.splitOnP (· == '\n')).map String.ofList)

/-- The failure on several lines, the outermost part first. Several causes are numbered. -/
def text (report : Report) : String :=
  match report.parts with
  | [] => ""
  | [only] => only
  | [outermost, cause] => outermost ++ "\n\nCaused by:\n" ++ causeText none cause
  | outermost :: causes =>
    outermost ++ "\n\nCaused by:" ++
      String.join (causes.zipIdx.map fun (cause, n) => "\n" ++ causeText (some n) cause)

end Report

end PadScript
