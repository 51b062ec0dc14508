import PadScript.Script

/-!
# The session: what a host and its screen share

The script that was compiled last with its source, and whether a play of it is
under way.
-/

namespace PadScript

inductive SessionState
  | idle
  | running
  | stopping
  deriving DecidableEq, Repr

structure Session where
  state : SessionState := .idle
  path : Option String := none
  source : List String := []
  script : Option Script := none
  error : Option String := none
  /-- How many passes the current play was asked for; `none` for a single one. -/
  passes : Option Int32 := none

namespace Session

def isRunning (session : Session) : Bool := session.state != .idle

def settle (session : Session) : Session := { session with state := .idle, passes := none }

def launch (session : Session) (passes : Option Int32) : Session :=
  { session with state := .running, passes, error := none }

/-- Compiles a source into the session, under a new path if one is given. An error
leaves no script. -/
def compile (session : Session) (registry : Registry) (path : Option String) (source : String) :
    Session × Except ScriptError Nat :=
  let lines := linesOf source
  let session := { session with path := path <|> session.path, source := lines }
  match Script.ofLines registry lines with
  | .ok script => ({ session with script := some script, error := none }, .ok script.size)
  | .error error => ({ session with script := none, error := some error.message }, .error error)

end Session

inductive Request
  | compile (path : String)
  | runOnce
  | runLoop (times : Int32)
  | cancel
  | quit
  deriving DecidableEq, Repr

end PadScript
