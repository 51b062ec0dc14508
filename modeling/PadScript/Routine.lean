import PadScript.Buttons
import PadScript.Log
import PadScript.Fault
import PadScript.Progress
import PadScript.Store

/-!
# Routines: what commands do

A routine is a tree of actions. It acts on the output and on the timers, progress
and store of its play, it asks whether the play has been asked to stop, and it
pauses until a deadline or such a request. Nothing happens when a routine is
built; a play performs it, one node at a time. A write that the output refuses
ends the whole play, so routines need not look at the answer.
-/

namespace PadScript

structure Context where
  timers : Timers := {}
  progress : Progress := {}
  store : Store := {}

namespace Context

def restartTimer (context : Context) (label : Label) (now : Time) : Context :=
  { context with
    timers := context.timers.restart label now
    progress := context.progress.markTimer label now }

def startTimer (context : Context) (label : Label) (now : Time) : Context :=
  let context := context.restartTimer label now
  { context with progress := context.progress.activateHits }

def restartDelay (context : Context) (now : Time) : Context :=
  { context with timers := context.timers.restartDelay now }

def nextHit (context : Context) : Context := { context with progress := context.progress.nextHit }

end Context

/-- A change or a message that needs no answer. -/
inductive Action
  | write (bytes : List UInt8)
  | restartTimer (label : Label)
  | startTimer (label : Label)
  | restartDelay
  | nextHit
  | store (change : Store → Store)
  | log (entry : LogEntry)
  | signal (message : String)

inductive Pause
  /-- A time on the delay timer, counted from now if `fresh`, else from its last restart. -/
  | delay (ms : UInt32) (fresh : Bool)
  | timer (label : Label) (ms : UInt64)
  deriving DecidableEq, Repr

inductive Routine (α : Type) : Type
  | done (result : α)
  | fail (fault : Fault)
  | act (action : Action) (next : Routine α)
  | check (next : Bool → Routine α)
  /-- Waits; the answer is whether the wait was cut short by a request to stop. -/
  | pause (pause : Pause) (next : Bool → Routine α)
  /-- Looks at what the play owns and at the clock. -/
  | consult (next : Context → Time → Routine α)

namespace Routine

variable {α β : Type}

def bind : Routine α → (α → Routine β) → Routine β
  | done result, k => k result
  | fail fault, _ => fail fault
  | act action next, k => act action (next.bind k)
  | check next, k => check fun stopped => (next stopped).bind k
  | pause p next, k => pause p fun stopped => (next stopped).bind k
  | consult next, k => consult fun context now => (next context now).bind k

instance : Monad Routine where
  pure := done
  bind := bind

@[simp] theorem pure_eq_done (result : α) : (pure result : Routine α) = done result := rfl

@[simp] theorem bind_done (result : α) (k : α → Routine β) : (done result >>= k) = k result := rfl

@[simp] theorem bind_fail (fault : Fault) (k : α → Routine β) : (fail fault >>= k) = fail fault :=
  rfl

@[simp] theorem bind_act (action : Action) (next : Routine α) (k : α → Routine β) :
    (act action next >>= k) = act action (next >>= k) := rfl

@[simp] theorem bind_check (next : Bool → Routine α) (k : α → Routine β) :
    (check next >>= k) = check fun stopped => next stopped >>= k := rfl

@[simp] theorem bind_pause (p : Pause) (next : Bool → Routine α) (k : α → Routine β) :
    (pause p next >>= k) = pause p fun stopped => next stopped >>= k := rfl

@[simp] theorem bind_consult (next : Context → Time → Routine α) (k : α → Routine β) :
    (consult next >>= k) = consult fun context now => next context now >>= k := rfl

private theorem bind_pure' (r : Routine α) : r.bind done = r := by
  induction r with
  | done | fail => rfl
  | act _ _ ih => simp only [bind, ih]
  | check _ ih | pause _ _ ih => simp only [bind, ih]
  | consult _ ih => simp only [bind, ih]

private theorem bind_assoc' {γ : Type} (r : Routine α) (f : α → Routine β) (g : β → Routine γ) :
    (r.bind f).bind g = r.bind fun a => (f a).bind g := by
  induction r with
  | done | fail => rfl
  | act _ _ ih => simp only [bind, ih]
  | check _ ih | pause _ _ ih => simp only [bind, ih]
  | consult _ ih => simp only [bind, ih]

instance : LawfulMonad Routine :=
  LawfulMonad.mk' Routine bind_pure' (fun _ _ => rfl) bind_assoc'

def perform (action : Action) : Routine Unit := act action (done ())

def setButtons (buttons : Buttons) : Routine Unit := perform (.write buttons.frame)

def isStopped : Routine Bool := check done

def await (p : Pause) : Routine Bool := pause p done

def delay (ms : UInt32) : Routine Bool := await (.delay ms true)

def store : Routine Store := consult fun context _ => done context.store

def log (level : LogLevel) (tag message : String) : Routine Unit :=
  perform (.log ⟨level, tag, message⟩)

/-- Holds the buttons for a time and releases them, also when the hold is cut short. -/
def hold (buttons : Buttons) (ms : UInt32) : Routine Bool := do
  setButtons buttons
  let stopped ← delay ms
  setButtons .released
  return stopped

/-- Holds each set of buttons in turn, with a pause after each. Ends early when the
play has been asked to stop. -/
def holdEach : List (Buttons × UInt32 × UInt32) → Routine Unit
  | [] => pure ()
  | (buttons, holdMs, pauseMs) :: rest => do
    if ← isStopped then return
    if ← hold buttons holdMs then return
    if ← delay pauseMs then return
    holdEach rest

end Routine

end PadScript
