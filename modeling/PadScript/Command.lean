import PadScript.Routine

/-!
# Commands

What one line of a script asks for. The built-in commands are data; an extension
brings the routine it performs. `Command.routine` says what each of them does.
-/

namespace PadScript

/-- Holds each group in turn, with an interval after each. -/
structure Press where
  groups : List Buttons
  durationMs : UInt32
  intervalMs : UInt32
  start : Option Label
  deriving DecidableEq

structure Wait where
  durationMs : UInt32
  deriving DecidableEq, Repr

/-- Restarts a timer, if one is named, and moves on to the next hit. -/
structure Start where
  start : Option Label
  deriving DecidableEq, Repr

/-- Holds a button once a timer has run for a number of frames. -/
structure Hit where
  button : Buttons
  frame : UInt32
  label : Label
  durationMs : UInt32
  start : Option Label
  deriving DecidableEq

inductive Command
  | press (press : Press)
  | wait (wait : Wait)
  | start (start : Start)
  | hit (hit : Hit)
  | extension (routine : Routine Unit)

namespace Routine

/-- Restarts the timer, if there is one, and puts an idle hit cursor on the first hit. -/
def startTimer? : Option Label → Routine Unit
  | some label => perform (.startTimer label)
  | none => pure ()

end Routine

def Press.routine (press : Press) : Routine Unit := do
  Routine.startTimer? press.start
  Routine.holdEach (press.groups.map fun group => (group, press.durationMs, press.intervalMs))

def Wait.routine (wait : Wait) : Routine Unit := do
  let _ ← Routine.delay wait.durationMs

def Start.routine (start : Start) : Routine Unit := do
  if let some label := start.start then
    Routine.perform (.restartTimer label)
  Routine.perform .nextHit

def Hit.dueMs (hit : Hit) : UInt64 := FrameRate.toMillis hit.frame

def Hit.routine (hit : Hit) : Routine Unit := do
  if ← Routine.await (.timer hit.label hit.dueMs) then return
  Routine.perform .nextHit
  Routine.startTimer? hit.start
  let _ ← Routine.hold hit.button hit.durationMs

namespace Command

def routine : Command → Routine Unit
  | press p => p.routine
  | wait w => w.routine
  | start s => s.routine
  | hit h => h.routine
  | extension routine => routine

def planned? : Command → Option PlannedHit
  | hit h => some ⟨h.label, h.frame⟩
  | _ => none

end Command

end PadScript
