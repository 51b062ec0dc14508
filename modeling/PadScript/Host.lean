import PadScript.Play
import PadScript.Session

/-!
# The host: one output, one play at a time

A host owns an output and hands it to the thread of a play, which hands it back
when it ends. Requests are handled one at a time; a request that has to end a play
first waits for its thread. Host and thread take turns in any order, and every
turn is one action that the other cannot divide: an action under the session's
lock, a read or a rise of the stop flag, one step of the play. So a law of the
host under every interleaving is a law of `Host.step` over every list of turns.

The output is opaque here. What it answers to a write or to being closed is part
of the turn.
-/

namespace PadScript

inductive Thread (σ : Type)
  | playing (output : σ) (play : Play)
  /-- Has reported and is about to hand the output back. -/
  | leaving (output : σ)
  | returned (output : σ)
  /-- Broke down, and took the output with it. -/
  | crashed

def Thread.isFinished {σ : Type} : Thread σ → Bool
  | returned _ | crashed => true
  | playing .. | leaving _ => false

structure ActivePlay (σ : Type) where
  stopRequested : Bool := false
  thread : Thread σ

/-- What a host goes on with once no play is under way. -/
inductive Afterwards
  | nothing
  | launch (passes : Option Int32)
  | close
  /-- Whether the compilation was asked for by a request decides who hears of an error. -/
  | compile (path : Option String) (source : String) (byRequest : Bool)
  deriving DecidableEq, Repr

inductive Task
  | ready
  /-- About to compile, if the last play has ended. -/
  | compiling (path : Option String) (source : String) (byRequest : Bool)
  /-- About to look whether the thread has finished. -/
  | looking (next : Afterwards)
  /-- It has not: about to say so in the session. -/
  | announcing (next : Afterwards)
  /-- About to ask the play to stop. -/
  | raising (next : Afterwards)
  | joining (next : Afterwards)
  /-- About to say in the session that no play is under way. -/
  | settling (next : Afterwards)
  /-- No play is under way. -/
  | free (next : Afterwards)
  deriving DecidableEq, Repr

structure Host (σ : Type) where
  registry : Registry
  session : Session := {}
  /-- The published progress while no thread plays. -/
  idleProgress : Progress := {}
  output : Option σ
  active : Option (ActivePlay σ) := none
  task : Task := .ready

/-- One action of the host, of the thread, or of somebody else. -/
inductive Turn
  /-- A request begins to be handled. `found` is what its file would be read as. -/
  | request (request : Request) (found : Except Fault String)
  | compile (path : Option String) (source : String)
  /-- The host looks after a thread that may have ended by itself. -/
  | collect
  | host (closeFailure : Option Report)
  | thread (now : Time) (refusal : Option Fault)
  | crash
  /-- Somebody with access to the stop flag raises it. -/
  | stop

inductive HostEvent
  | play (event : Event)
  /-- The answer to whoever gave a source to be compiled. -/
  | compiled (failure : Option Report)
  deriving DecidableEq, Repr

namespace Host

variable {σ : Type}

def tag : String := "macro"

def logged (level : LogLevel) (message : String) : HostEvent :=
  .play (.logged ⟨level, tag, message⟩)

def loggedPlain (level : LogLevel) (message : String) : HostEvent :=
  .play (.logged ⟨level, "", message⟩)

def progress (host : Host σ) : Progress :=
  match host.active with
  | some { thread := .playing _ play, .. } => play.progress
  | _ => host.idleProgress

def isReady (host : Host σ) : Bool := host.task = .ready

def stopThen (host : Host σ) (next : Afterwards) : Host σ :=
  match host.active with
  | some _ => { host with task := .looking next }
  | none => { host with task := .free next }

def refusal : Report := ⟨[], "stop the running macro before recompiling"⟩

def compiled (byRequest : Bool) : Option Report → List HostEvent
  | none => if byRequest then [] else [.compiled none]
  | some failure => if byRequest then [logged .error failure.line] else [.compiled (some failure)]

def compileNow (host : Host σ) (path : Option String) (source : String) (byRequest : Bool) :
    Host σ × List HostEvent :=
  let (session, result) := host.session.compile host.registry path source
  let host := { host with session, task := .ready }
  match result with
  | .ok count =>
    (host, logged .info ("compiled " ++ toString count ++ " command(s)") :: compiled byRequest none)
  | .error error => (host, compiled byRequest (some ⟨["compile failed"], error.message⟩))

def launchText : Option Int32 → String
  | some count => if count < 0 then "looping until stopped"
      else "looping " ++ toString count.toInt ++ " time(s)"
  | none => "run started"

def goalOf : Option Int32 → Goal
  | some count => .repeated count
  | none => .once

def launch (host : Host σ) (passes : Option Int32) : Host σ × List HostEvent :=
  let host := { host with task := .ready }
  match host.session.script, host.output with
  | none, _ => (host, [logged .warn "nothing compiled"])
  | some _, none => (host, [loggedPlain .error "output sink unavailable"])
  | some script, some output =>
    let play := Play.start script (goalOf passes) host.idleProgress
    ({ host with
        session := host.session.launch passes
        output := none
        active := some { thread := .playing output play } },
      [logged .info (launchText passes)])

def close (host : Host σ) (failure : Option Report) : Host σ × List HostEvent :=
  let host := { host with task := .ready }
  match host.output with
  | none => (host, [])
  | some _ =>
    ({ host with output := none }, .play (.closed failure) ::
      match failure with
      | some failure => [loggedPlain .error ("failed to close output: " ++ failure.line)]
      | none => [])

def beginRequest (host : Host σ) (request : Request) (found : Except Fault String) :
    Host σ × List HostEvent :=
  match request with
  | .compile path =>
    match found with
    | .ok source => ({ host with task := .compiling (some path) source true }, [])
    | .error fault =>
      let session :=
        { host.session with error := some ("cannot read " ++ path ++ ": " ++ fault.text) }
      let report := (Report.ofFault fault).within ("failed to read " ++ path)
      ({ host with session }, compiled true (some report))
  | .runOnce => (host.stopThen (.launch none), [])
  | .runLoop times => (host.stopThen (.launch (some times)), [])
  | .cancel =>
    (host.stopThen .nothing, if host.active.isSome then [logged .info "stopping..."] else [])
  | .quit => (host.stopThen .close, [loggedPlain .info "shutting down"])

/-- The next action of the host's task; `none` when it has none or waits for the thread. -/
def work (host : Host σ) (closeFailure : Option Report) : Option (Host σ × List HostEvent) :=
  match host.task with
  | .ready => none
  | .compiling path source byRequest =>
    match host.active with
    | none => some (host.compileNow path source byRequest)
    | some active =>
      if active.thread.isFinished then
        some ({ host with task := .joining (.compile path source byRequest) }, [])
      else some ({ host with task := .ready }, compiled byRequest (some refusal))
  | .looking next =>
    let finished := host.active.all (·.thread.isFinished)
    some ({ host with task := if finished then .joining next else .announcing next }, [])
  | .announcing next =>
    let session := { host.session with state := .stopping }
    some ({ host with session := session, task := .raising next }, [])
  | .raising next =>
    let active := host.active.map fun active => { active with stopRequested := true }
    some ({ host with active, task := .joining next }, [])
  | .joining next =>
    match host.active with
    | none => some ({ host with task := .settling next }, [])
    | some active =>
      match active.thread with
      | .returned output =>
        some ({ host with output := some output, active := none, task := .settling next }, [])
      | .crashed =>
        some ({ host with active := none, task := .settling next },
          [loggedPlain .error "run thread panicked, output sink lost"])
      | .playing .. | .leaving _ => none
  | .settling next => some ({ host with session := host.session.settle, task := .free next }, [])
  | .free next =>
    match next with
    | .nothing => some ({ host with task := .ready }, [])
    | .launch passes => some (host.launch passes)
    | .close => some (host.close closeFailure)
    | .compile path source byRequest => some (host.compileNow path source byRequest)

def reportResult (session : Session) : Except Fault Outcome → Session × List HostEvent
  | .ok .completed => (session.settle, [logged .info "macro finished"])
  | .ok .interrupted => (session.settle, [logged .info "interrupted"])
  | .error fault =>
    ({ session.settle with error := some fault.text },
      [logged .error ("output error: " ++ fault.text)])

def threadStep (host : Host σ) (now : Time) (refusal : Option Fault) :
    Option (Host σ × List HostEvent) := do
  let active ← host.active
  match active.thread with
  | .playing output play =>
    match play.result? with
    | some result =>
      let (session, events) := reportResult host.session result
      some ({ host with
          session
          idleProgress := play.progress
          active := some { active with thread := .leaving output } }, events)
    | none =>
      let (play, event) := play.advance { now, stopRequested := active.stopRequested, refusal }
      some ({ host with active := some { active with thread := .playing output play } },
        event.toList.map .play)
  | .leaving output =>
    some ({ host with active := some { active with thread := .returned output } }, [])
  | .returned _ | .crashed => none

def crash (host : Host σ) : Option (Host σ) := do
  let active ← host.active
  match active.thread with
  | .playing _ play =>
    if play.result?.isNone then
      some { host with
        idleProgress := play.progress.reset
        active := some { active with thread := .crashed } }
    else none
  | _ => none

/-- One turn; `none` when it is not the turn's time. -/
def step (host : Host σ) : Turn → Option (Host σ × List HostEvent)
  | .request request found => if host.isReady then some (host.beginRequest request found) else none
  | .compile path source =>
    if host.isReady then some ({ host with task := .compiling path source false }, []) else none
  | .collect =>
    if host.isReady then
      if host.active.any (·.thread.isFinished) then
        some ({ host with task := .joining .nothing }, [])
      else some (host, [])
    else none
  | .host closeFailure => host.work closeFailure
  | .thread now refusal => host.threadStep now refusal
  | .crash => host.crash.map fun host => (host, [])
  | .stop => do
    let active ← host.active
    some ({ host with active := some { active with stopRequested := true } }, [])

def run (host : Host σ) : List Turn → Option (Host σ × List HostEvent)
  | [] => some (host, [])
  | turn :: rest => do
    let (host, events) ← host.step turn
    let (host, later) ← host.run rest
    some (host, events ++ later)

end Host

end PadScript
