import PadScript.Script

/-!
# Playing a script

A play is a script under way. `advance` takes it one atomic action further: it
looks once at what is outside, and changes what the play owns or says what it
did. What is outside comes from somewhere else, moment by moment: the clock, a
request to stop, the answer of the output to a write. So a play under every clock
and every request is `advance` over every sequence of moments, and an action of
somebody else may fall between any two of its own.
-/

namespace PadScript

inductive Goal
  | once
  /-- So many passes; a negative count means until stopped. -/
  | repeated (count : Int32)
  deriving DecidableEq, Repr

inductive Outcome
  | completed
  | interrupted
  deriving DecidableEq, Repr

/-- What is outside at one moment, and the output's answer to a write then. -/
structure Moment extends Outside where
  refusal : Option Fault := none
  deriving DecidableEq, Repr

inductive Event
  | wrote (bytes : List UInt8)
  | refused (bytes : List UInt8) (fault : Fault)
  | logged (entry : LogEntry)
  | signalled (message : String)
  /-- The output was closed, or refused to be. -/
  | closed (failure : Option Report)
  deriving DecidableEq, Repr

/-- Where a play is. Passes and steps are counted from 0. -/
inductive Phase
  | atPass (pass : Nat)
  /-- Before a step; past the last one, at the end of a pass. -/
  | atStep (pass step : Nat)
  | acting (pass step : Nat) (routine : Routine Unit)
  | waiting (pass step : Nat) (deadline : Time) (next : Bool → Routine Unit)
  | ending
  | finished (result : Except Fault Outcome)

structure Play where
  script : Script
  goal : Goal
  context : Context
  phase : Phase

namespace Play

/-- A play that is about to begin. It owns fresh timers and an empty store, and the
progress it publishes into becomes idle. -/
def start (script : Script) (goal : Goal) (progress : Progress) : Play where
  script := script
  goal := goal
  context := { progress := progress.reset }
  phase := match goal with
    | .once => .atStep 0 0
    | .repeated _ => .atPass 0

def progress (play : Play) : Progress := play.context.progress

def result? (play : Play) : Option (Except Fault Outcome) :=
  match play.phase with
  | .finished result => some result
  | _ => none

def pendingWrite? (play : Play) : Option (List UInt8) :=
  match play.phase with
  | .acting _ _ (.act (.write bytes) _) => some bytes
  | _ => none

def deadline? (play : Play) : Option Time :=
  match play.phase with
  | .waiting _ _ deadline _ => some deadline
  | _ => none

def finish (play : Play) (result : Except Fault Outcome) : Play :=
  { play with
    context := { play.context with progress := play.context.progress.reset }
    phase := .finished result }

def endPass (play : Play) (pass : Nat) : Play :=
  { play with
    context := { play.context with progress := play.context.progress.endPass }
    phase := match play.goal with
      | .once => .ending
      | .repeated _ => .atPass (pass + 1) }

def beginPass (play : Play) (pass : Nat) (moment : Moment) : Play :=
  match play.goal with
  | .once => { play with phase := .atStep pass 0 }
  | .repeated count =>
    if (0 ≤ count ∧ count.toInt ≤ pass) ∨ moment.stopRequested then { play with phase := .ending }
    else
      let shown := if count < 0 then Progress.idleIndex else Int32.ofNat pass
      { play with
        context := { play.context with progress := play.context.progress.setPass shown }
        phase := .atStep pass 0 }

def beginStep (play : Play) (pass index : Nat) (moment : Moment) : Play :=
  match play.script.steps[index]? with
  | none => play.endPass pass
  | some step =>
    if moment.stopRequested then play.endPass pass
    else
      { play with
        context :=
          { play.context with progress := play.context.progress.setCommand step.index step.line }
        phase := .acting pass index step.command.routine }

def act (play : Play) (pass step : Nat) (action : Action) (next : Routine Unit) (moment : Moment) :
    Play × Option Event :=
  let goOn (context : Context) : Play := { play with context, phase := .acting pass step next }
  let context := play.context
  match action with
  | .write bytes =>
    match moment.refusal with
    | some fault => (play.finish (.error fault), some (.refused bytes fault))
    | none => (goOn context, some (.wrote bytes))
  | .restartTimer label => (goOn (context.restartTimer label moment.now), none)
  | .startTimer label => (goOn (context.startTimer label moment.now), none)
  | .restartDelay => (goOn (context.restartDelay moment.now), none)
  | .nextHit => (goOn context.nextHit, none)
  | .store change => (goOn { context with store := change context.store }, none)
  | .log entry => (goOn context, some (.logged entry))
  | .signal message => (goOn context, some (.signalled message))

def beginPause (play : Play) (pass step : Nat) (pause : Pause) (next : Bool → Routine Unit)
    (moment : Moment) : Play :=
  match pause with
  | .delay ms fresh =>
    let (timers, deadline) := play.context.timers.beginDelay ms.toNat fresh moment.now
    { play with context := { play.context with timers }, phase := .waiting pass step deadline next }
  | .timer label ms =>
    let deadline := play.context.timers.deadlineOn label ms.toNat moment.now
    { play with phase := .waiting pass step deadline next }

/-- One atomic action. A play that is over stays as it is. -/
def advance (play : Play) (moment : Moment) : Play × Option Event :=
  match play.phase with
  | .atPass pass => (play.beginPass pass moment, none)
  | .atStep pass step => (play.beginStep pass step moment, none)
  | .acting pass step routine =>
    match routine with
    | .done () => ({ play with phase := .atStep pass (step + 1) }, none)
    | .fail fault => (play.finish (.error fault), none)
    | .act action next => play.act pass step action next moment
    | .check next => ({ play with phase := .acting pass step (next moment.stopRequested) }, none)
    | .pause pause next => (play.beginPause pass step pause next moment, none)
    | .consult next =>
      ({ play with phase := .acting pass step (next play.context moment.now) }, none)
  | .waiting pass step deadline next =>
    match pollWait deadline moment.toOutside with
    | some stopped => ({ play with phase := .acting pass step (next stopped) }, none)
    | none => (play, none)
  | .ending => (play.finish (.ok (if moment.stopRequested then .interrupted else .completed)), none)
  | .finished _ => (play, none)

/-- The play after the first `n` moments of a sequence. -/
def after (play : Play) (moments : Nat → Moment) : Nat → Play
  | 0 => play
  | n + 1 => ((play.after moments n).advance (moments n)).1

def events (play : Play) (moments : Nat → Moment) : Nat → List Event
  | 0 => []
  | n + 1 => play.events moments n ++ (((play.after moments n).advance (moments n)).2).toList

theorem advance_finished {play : Play} {result : Except Fault Outcome}
    (h : play.phase = .finished result) (moment : Moment) :
    play.advance moment = (play, none) := by
  simp [advance, h]

theorem progress_finish (play : Play) (result : Except Fault Outcome) :
    (play.finish result).progress = play.progress.reset := rfl

theorem result?_finish (play : Play) (result : Except Fault Outcome) :
    (play.finish result).result? = some result := rfl

end Play

end PadScript
