import PadScript.Registry
import PadScript.Tokens

/-!
# Scripts

A script is the commands of a source text in order, each with its position and
its line, and the plan of its hits. Reading goes line by line and stops at the
first error; a source without a command is no script.
-/

namespace PadScript

structure Step where
  index : Nat
  /-- 0-based line of the source. -/
  line : Nat
  command : Command

structure Script where
  steps : Array Step
  plan : Array PlannedHit

/-- Why a source is no script. Lines count from 1. -/
inductive ScriptError
  | unknownCommand (line : Nat) (name : String)
  | badCommand (line : Nat) (keyword : String) (error : ReadError)
  | empty
  deriving DecidableEq, Repr

namespace ScriptError

def line? : ScriptError → Option Nat
  | unknownCommand line _ | badCommand line _ _ => some line
  | empty => none

def message : ScriptError → String
  | unknownCommand line name =>
    "line " ++ toString line ++ ": invalid command name `" ++ name ++ "`"
  | badCommand line keyword error =>
    "line " ++ toString line ++ ": " ++ keyword ++ ": " ++ error.message
  | empty => "no valid commands"

end ScriptError

structure ScriptDraft where
  draft : Draft := {}
  steps : Array Step := #[]

namespace ScriptDraft

def addLine (registry : Registry) (sofar : ScriptDraft) (source : String × Nat) :
    Except ScriptError ScriptDraft :=
  match tokenize source.1 with
  | none | some [] => .ok sofar
  | some (keyword :: args) =>
    match registry.get? keyword with
    | none => .error (.unknownCommand (source.2 + 1) keyword)
    | some reader =>
      match (reader args).run { sofar.draft with line := source.2 } with
      | (.error error, _) => .error (.badCommand (source.2 + 1) keyword error)
      | (.ok command, draft) =>
        .ok { draft, steps := sofar.steps.push ⟨sofar.steps.size, source.2, command⟩ }

end ScriptDraft

namespace Script

def ofLines (registry : Registry) (source : List String) : Except ScriptError Script := do
  let read ← source.zipIdx.foldlM (ScriptDraft.addLine registry) {}
  if read.steps.isEmpty then throw .empty
  return ⟨read.steps, read.draft.plan⟩

def ofText (registry : Registry) (source : String) : Except ScriptError Script :=
  ofLines registry (linesOf source)

def size (script : Script) : Nat := script.steps.size

end Script

end PadScript
