import Mathlib.Data.List.ModifyLast
import PadScript.Host
import PadScript.Proofs.Play.Notes

/-!
# Chronicles of hosts

A chronicle keeps beside a host what has happened to it: the turns, what others saw,
and a record of each play that was started, with the moments that this play has had.
A record says by itself what its play has written, `Run.writes`, whatever came in
between. A chronicle is no more than the host's own run (`run_of_after`), and every run
has one (`after_of_run`); `Host.does_of_step` says once what a turn can do.
-/

namespace PadScript

-- ---------------------------------------------------------------------------
-- Records of plays
-- ---------------------------------------------------------------------------

namespace Play

variable {moments other : Nat → Moment} {n : Nat}

theorem after_congr (play : Play) (h : ∀ i < n, moments i = other i) :
    play.after moments n = play.after other n := by
  induction n with
  | zero => rfl
  | succ n ih =>
    rw [after, after, ih fun i hi => h i (Nat.lt_succ_of_lt hi), h n (Nat.lt_succ_self n)]

theorem events_congr (play : Play) (h : ∀ i < n, moments i = other i) :
    play.events moments n = play.events other n := by
  induction n with
  | zero => rfl
  | succ n ih =>
    have hlt : ∀ i < n, moments i = other i := fun i hi => h i (Nat.lt_succ_of_lt hi)
    rw [events, events, ih hlt, after_congr play hlt, h n (Nat.lt_succ_self n)]

end Play

/-- The output was asked to take bytes, whatever it answered. -/
def Event.isWrite : Event → Bool
  | .wrote _ | .refused .. => true
  | .logged _ | .signalled _ | .closed _ => false

/-- A play that a host has started, and the moments it has had so far. -/
structure Run where
  script : Script
  goal : Goal
  progress : Progress
  moments : List Moment := []

namespace Run

def moment (run : Run) (n : Nat) : Moment :=
  run.moments.getD n { now := 0, stopRequested := false }

def first (run : Run) : Play := .start run.script run.goal run.progress

def play (run : Run) : Play := run.first.after run.moment run.moments.length

def events (run : Run) : List Event := run.first.events run.moment run.moments.length

def writes (run : Run) : List Event := run.events.filter Event.isWrite

def add (run : Run) (moment : Moment) : Run := { run with moments := run.moments ++ [moment] }

variable (run : Run) (moment : Moment)

theorem moment_add_of_lt {n : Nat} (h : n < run.moments.length) :
    (run.add moment).moment n = run.moment n := by
  simp [Run.moment, add, List.getElem?_append_left h]

theorem moment_add_length : (run.add moment).moment run.moments.length = moment := by
  simp [Run.moment, add]

theorem play_add : (run.add moment).play = (run.play.advance moment).1 := by
  have hlength : (run.add moment).moments.length = run.moments.length + 1 := by simp [add]
  rw [play, hlength, Play.after, moment_add_length]
  exact congrArg (fun play => (Play.advance play moment).1)
    (Play.after_congr run.first fun _ => run.moment_add_of_lt moment)

theorem events_add :
    (run.add moment).events = run.events ++ (run.play.advance moment).2.toList := by
  have hlength : (run.add moment).moments.length = run.moments.length + 1 := by simp [add]
  have hcongr {i : Nat} (hi : i < run.moments.length) := run.moment_add_of_lt moment hi
  rw [events, hlength, Play.events, moment_add_length]
  change Play.events run.first _ _ ++ ((Play.after run.first _ _).advance moment).2.toList = _
  rw [Play.events_congr run.first fun _ => hcongr, Play.after_congr run.first fun _ => hcongr]
  rfl

theorem writes_add : (run.add moment).writes =
    run.writes ++ (run.play.advance moment).2.toList.filter Event.isWrite := by
  rw [writes, events_add, List.filter_append, writes]

end Run

/-- What a turn adds to the records: a new one, or a moment to the last. -/
inductive Entry
  | begun (run : Run)
  | moment (moment : Moment)

def Entry.addTo (runs : List Run) : Option Entry → List Run
  | none => runs
  | some (begun run) => runs ++ [run]
  | some (moment m) => runs.modifyLast (·.add m)

namespace Host

variable {σ : Type}

def thread? (host : Host σ) : Option (Thread σ) := host.active.map (·.thread)

def record? (host : Host σ) : Turn → Option Entry
  | .host _ =>
    match host.task, host.session.script, host.output with
    | .free (.launch passes), some script, some _ =>
      some (.begun { script, goal := goalOf passes, progress := host.idleProgress })
    | _, _, _ => none
  | .thread now refusal =>
    match host.active with
    | some ⟨stopRequested, .playing _ play⟩ =>
      if play.result?.isNone then some (.moment { now, stopRequested, refusal }) else none
    | _ => none
  | _ => none

end Host

-- ---------------------------------------------------------------------------
-- Turns
-- ---------------------------------------------------------------------------

def HostEvent.write? : HostEvent → Option Event
  | .play event => if event.isWrite then some event else none
  | .compiled _ => none

/-- The output was neither asked for anything nor closed. -/
def Silent (events : List HostEvent) : Prop :=
  ∀ event ∈ events, event.write? = none ∧ ∀ failure, event ≠ .play (.closed failure)

namespace Task

def isSettled : Task → Bool
  | settling _ | free _ => true
  | ready | compiling .. | looking _ | announcing _ | raising _ | joining _ => false

def next? : Task → Option Afterwards
  | looking next | announcing next | raising next | joining next | settling next | free next =>
    some next
  | ready | compiling .. => none

end Task

namespace Host

variable {σ : Type}

structure Quiet (host : Host σ) (turn : Turn) (next : Host σ) (events : List HostEvent) :
    Prop where
  output : next.output = host.output
  thread : next.thread? = host.thread?
  settled : next.task.isSettled → host.task.isSettled ∨ host.thread? = none
  closing : next.task.next? = some .close →
    host.task.next? = some .close ∨ ∃ found, turn = .request .quit found
  sound : turn ≠ .crash
  entry : host.record? turn = none
  silent : Silent events

/-- What a turn can do to a host. -/
inductive Does (host : Host σ) : Turn → Host σ → List HostEvent → Prop
  | quiet {turn next events} (h : host.Quiet turn next events) : Does host turn next events
  | launch {closeFailure passes script output next events}
      (htask : host.task = .free (.launch passes)) (houtput : host.output = some output)
      (hentry : host.record? (.host closeFailure) = some (.begun
        { script, goal := goalOf passes, progress := host.idleProgress }))
      (htask' : next.task = .ready) (houtput' : next.output = none)
      (hthread : next.thread? =
        some (.playing output (Play.start script (goalOf passes) host.idleProgress)))
      (hsilent : Silent events) : Does host (.host closeFailure) next events
  | collect {closeFailure output after next events} (htask : host.task = .joining after)
      (hthread : host.thread? = some (.returned output))
      (hentry : host.record? (.host closeFailure) = none)
      (htask' : next.task = .settling after) (houtput' : next.output = some output)
      (hthread' : next.thread? = none)
      (hsilent : Silent events) : Does host (.host closeFailure) next events
  | bury {closeFailure after next events} (htask : host.task = .joining after)
      (hthread : host.thread? = some .crashed)
      (hentry : host.record? (.host closeFailure) = none)
      (htask' : next.task = .settling after) (houtput' : next.output = host.output)
      (hthread' : next.thread? = none)
      (hsilent : Silent events) : Does host (.host closeFailure) next events
  | close {closeFailure output next later} (htask : host.task = .free .close)
      (houtput : host.output = some output)
      (hentry : host.record? (.host closeFailure) = none)
      (htask' : next.task = .ready) (houtput' : next.output = none)
      (hthread' : next.thread? = host.thread?) (hsilent : Silent later) :
      Does host (.host closeFailure) next (.play (.closed closeFailure) :: later)
  | play {now refusal moment output play next}
      (hthread : host.thread? = some (.playing output play)) (hresult : play.result? = none)
      (hentry : host.record? (.thread now refusal) = some (.moment moment))
      (htask' : next.task = host.task) (houtput' : next.output = host.output)
      (hthread' : next.thread? = some (.playing output (play.advance moment).1)) :
      Does host (.thread now refusal) next ((play.advance moment).2.toList.map .play)
  | report {now refusal output play next events}
      (hthread : host.thread? = some (.playing output play))
      (hentry : host.record? (.thread now refusal) = none)
      (htask' : next.task = host.task) (houtput' : next.output = host.output)
      (hthread' : next.thread? = some (.leaving output))
      (hsilent : Silent events) : Does host (.thread now refusal) next events
  | leave {now refusal output next} (hthread : host.thread? = some (.leaving output))
      (hentry : host.record? (.thread now refusal) = none)
      (htask' : next.task = host.task) (houtput' : next.output = host.output)
      (hthread' : next.thread? = some (.returned output)) :
      Does host (.thread now refusal) next []
  | crash {output play next} (hthread : host.thread? = some (.playing output play))
      (htask' : next.task = host.task) (houtput' : next.output = host.output)
      (hthread' : next.thread? = some .crashed) : Does host .crash next []

theorem settled_of_begun {host : Host σ} {turn : Turn} {run : Run}
    (h : host.record? turn = some (.begun run)) :
    host.task.isSettled ∧ ∃ output, host.output = some output := by
  cases turn with
  | host closeFailure =>
    simp only [record?] at h
    split at h
    · rename_i htask _ houtput
      exact ⟨by rw [htask, Task.isSettled], _, houtput⟩
    · cases h
  | thread now refusal =>
    simp only [record?] at h
    split at h
    · split at h <;> cases h
    · cases h
  | _ => cases h

theorem silent_nil : Silent [] := by simp [Silent]

theorem silent_logged (level : LogLevel) (message : String) : Silent [logged level message] := by
  simp [Silent, logged, HostEvent.write?, Event.isWrite]

theorem silent_loggedPlain (level : LogLevel) (message : String) :
    Silent [loggedPlain level message] := by
  simp [Silent, loggedPlain, HostEvent.write?, Event.isWrite]

theorem silent_compiled (byRequest : Bool) (failure : Option Report) :
    Silent (compiled byRequest failure) := by
  cases failure <;> cases byRequest <;>
    simp [Silent, compiled, logged, HostEvent.write?, Event.isWrite]

theorem thread?_of_active {host : Host σ} {active : ActivePlay σ} (h : host.active = some active) :
    host.thread? = some active.thread := by simp [thread?, h]

theorem stopThen_quiet {host : Host σ} {turn : Turn} {next : Afterwards} {events : List HostEvent}
    (hclose : next = .close → ∃ found, turn = .request .quit found) (hsound : turn ≠ .crash)
    (hentry : host.record? turn = none) (hs : Silent events) :
    host.Quiet turn (host.stopThen next) events := by
  obtain ⟨registry, session, progress, output, active, task⟩ := host
  have hclosing : (some next = some .close) → ∃ found, turn = .request .quit found :=
    fun hn => hclose (Option.some.inj hn)
  cases active with
  | none => exact ⟨rfl, rfl, fun _ => .inr rfl, fun hn => .inr (hclosing hn), hsound, hentry, hs⟩
  | some active =>
    exact ⟨rfl, rfl, by simp [stopThen, Task.isSettled], fun hn => .inr (hclosing hn), hsound,
      hentry, hs⟩

theorem beginRequest_quiet (host : Host σ) (request : Request) (found : Except Fault String)
    (hready : host.isReady) : host.Quiet (.request request found)
      (host.beginRequest request found).1 (host.beginRequest request found).2 := by
  have htask : host.task = .ready := by simpa [isReady] using hready
  cases request with
  | compile path =>
    cases found with
    | ok source =>
      exact ⟨rfl, rfl, by simp [beginRequest, Task.isSettled], by simp [beginRequest, Task.next?],
        by simp, rfl, silent_nil⟩
    | error fault =>
      exact ⟨rfl, rfl, by simp [beginRequest, htask, Task.isSettled],
        by simp [beginRequest, htask, Task.next?], by simp, rfl,
        silent_compiled true (some ((Report.ofFault fault).within ("failed to read " ++ path)))⟩
  | runOnce => exact stopThen_quiet (by simp) (by simp) rfl silent_nil
  | runLoop times => exact stopThen_quiet (by simp) (by simp) rfl silent_nil
  | cancel =>
    refine stopThen_quiet (by simp) (by simp) rfl ?_
    change Silent (if host.active.isSome then _ else _)
    split
    · exact silent_logged .info "stopping..."
    · exact silent_nil
  | quit => exact stopThen_quiet (fun _ => ⟨found, rfl⟩) (by simp) rfl (silent_loggedPlain _ _)

theorem silent_cons_logged {later : List HostEvent} (level : LogLevel) (message : String)
    (h : Silent later) : Silent (logged level message :: later) :=
  List.forall_mem_cons.2 ⟨silent_logged level message _ List.mem_cons_self, h⟩

theorem quiet_of_ready {host next : Host σ} {closeFailure : Option Report}
    {events : List HostEvent} (houtput : next.output = host.output)
    (hthread : next.thread? = host.thread?) (htask : next.task = .ready)
    (hentry : host.record? (.host closeFailure) = none) (hs : Silent events) :
    host.Does (.host closeFailure) next events :=
  .quiet ⟨houtput, hthread, by simp [htask, Task.isSettled], by simp [htask, Task.next?], by simp,
    hentry, hs⟩

theorem compileNow_does {host next : Host σ} {path : Option String} {source : String}
    {byRequest : Bool} {closeFailure : Option Report} {events : List HostEvent}
    (h : host.compileNow path source byRequest = (next, events))
    (hentry : host.record? (.host closeFailure) = none) :
    host.Does (.host closeFailure) next events := by
  unfold compileNow at h
  generalize host.session.compile host.registry path source = compilation at h
  obtain ⟨session, error | count⟩ := compilation
  · cases h
    exact quiet_of_ready rfl rfl rfl hentry (silent_compiled byRequest _)
  · cases h
    exact quiet_of_ready rfl rfl rfl hentry
      (silent_cons_logged _ _ (silent_compiled byRequest none))

theorem launch_does {host next : Host σ} {passes : Option Int32} {closeFailure : Option Report}
    {events : List HostEvent} (h : host.launch passes = (next, events))
    (htask : host.task = .free (.launch passes)) :
    host.Does (.host closeFailure) next events := by
  unfold launch at h
  cases hscript : host.session.script with
  | none =>
    simp only [hscript] at h
    cases h
    exact quiet_of_ready rfl rfl rfl (by simp [record?, htask, hscript]) (silent_logged _ _)
  | some script =>
    cases houtput : host.output with
    | none =>
      simp only [hscript, houtput] at h
      cases h
      exact quiet_of_ready houtput.symm rfl rfl (by simp [record?, htask, hscript, houtput])
        (silent_loggedPlain _ _)
    | some output =>
      simp only [hscript, houtput] at h
      cases h
      have hentry : host.record? (.host closeFailure) = some (.begun
          { script, goal := goalOf passes, progress := host.idleProgress }) := by
        simp [record?, htask, hscript, houtput]
      exact .launch htask houtput hentry rfl rfl rfl (silent_logged _ _)

theorem close_does {host next : Host σ} {closeFailure : Option Report} {events : List HostEvent}
    (h : host.close closeFailure = (next, events)) (htask : host.task = .free .close) :
    host.Does (.host closeFailure) next events := by
  have hentry : host.record? (.host closeFailure) = none := by simp [record?, htask]
  unfold close at h
  cases houtput : host.output with
  | none =>
    simp only [houtput] at h
    cases h
    exact quiet_of_ready houtput.symm rfl rfl hentry silent_nil
  | some output =>
    simp only [houtput] at h
    cases h
    refine .close htask houtput hentry rfl rfl rfl ?_
    cases closeFailure with
    | none => exact silent_nil
    | some failure => exact silent_loggedPlain _ _

theorem record?_of_task {host : Host σ} {closeFailure : Option Report}
    (htask : ∀ passes, host.task ≠ .free (.launch passes)) :
    host.record? (.host closeFailure) = none := by
  simp only [record?]
  split
  · rename_i passes _ _ hlaunch _ _
    exact absurd hlaunch (htask passes)
  · rfl

theorem quiet_of_next {host next : Host σ} {after : Afterwards} {closeFailure : Option Report}
    (hnext : host.task.next? = some after) (hnext' : next.task.next? = some after)
    (houtput : next.output = host.output) (hthread : next.thread? = host.thread?)
    (hsettled : next.task.isSettled → host.task.isSettled ∨ host.thread? = none)
    (hentry : host.record? (.host closeFailure) = none) :
    host.Does (.host closeFailure) next [] :=
  .quiet ⟨houtput, hthread, hsettled, fun hn => .inl (hnext.trans (hnext'.symm.trans hn)), by simp,
    hentry, silent_nil⟩

theorem join_does {host next : Host σ} {after : Afterwards} {closeFailure : Option Report}
    {events : List HostEvent} (h : host.work closeFailure = some (next, events))
    (htask : host.task = .joining after) : host.Does (.host closeFailure) next events := by
  have hentry : host.record? (.host closeFailure) = none := record?_of_task (by simp [htask])
  unfold work at h
  simp only [htask] at h
  split at h
  · rename_i hactive
    cases h
    exact quiet_of_next (by rw [htask, Task.next?]) rfl rfl rfl
      (fun _ => .inr (by simp [thread?, hactive])) hentry
  · rename_i active hactive
    have hthread : host.thread? = some active.thread := thread?_of_active hactive
    split at h
    · rename_i output hreturned
      cases h
      exact .collect htask (hreturned ▸ hthread) hentry rfl rfl rfl silent_nil
    · rename_i hcrashed
      cases h
      exact .bury htask (hcrashed ▸ hthread) hentry rfl rfl rfl (silent_loggedPlain _ _)
    · cases h
    · cases h

theorem work_does {host next : Host σ} {closeFailure : Option Report} {events : List HostEvent}
    (h : host.work closeFailure = some (next, events)) :
    host.Does (.host closeFailure) next events := by
  cases htask : host.task with
  | joining after => exact join_does h htask
  | ready => simp [work, htask] at h
  | compiling path source byRequest =>
    have hentry : host.record? (.host closeFailure) = none := record?_of_task (by simp [htask])
    simp only [work, htask] at h
    split at h
    · exact compileNow_does (Option.some.inj h) hentry
    · split at h
      · cases h
        exact .quiet ⟨rfl, rfl, by simp [Task.isSettled], by simp [Task.next?], by simp, hentry,
          silent_nil⟩
      · cases h
        exact quiet_of_ready rfl rfl rfl hentry (silent_compiled _ _)
  | looking after =>
    simp only [work, htask] at h
    cases h
    refine quiet_of_next (by rw [htask, Task.next?]) ?_ rfl rfl ?_
      (record?_of_task (by simp [htask]))
    · simp only
      split <;> rfl
    · simp only
      split <;> simp [Task.isSettled]
  | announcing after =>
    simp only [work, htask] at h
    cases h
    exact quiet_of_next (by rw [htask, Task.next?]) rfl rfl rfl (by simp [Task.isSettled])
      (record?_of_task (by simp [htask]))
  | raising after =>
    simp only [work, htask] at h
    cases h
    -- The flag is the play's, but no part of its thread.
    exact quiet_of_next (by rw [htask, Task.next?]) rfl rfl (by simp [thread?, Function.comp_def])
      (by simp [Task.isSettled]) (record?_of_task (by simp [htask]))
  | settling after =>
    simp only [work, htask] at h
    cases h
    exact quiet_of_next (by rw [htask, Task.next?]) rfl rfl rfl
      (fun _ => .inl (by rw [htask, Task.isSettled])) (record?_of_task (by simp [htask]))
  | free after =>
    simp only [work, htask] at h
    cases after with
    | nothing =>
      cases h
      exact quiet_of_ready rfl rfl rfl (record?_of_task (by simp [htask])) silent_nil
    | launch passes => exact launch_does (Option.some.inj h) htask
    | close => exact close_does (Option.some.inj h) htask
    | compile path source byRequest =>
      exact compileNow_does (Option.some.inj h) (record?_of_task (by simp [htask]))

theorem silent_reportResult (session : Session) (result : Except Fault Outcome) :
    Silent (reportResult session result).2 := by
  rcases result with fault | _ | _ <;> exact silent_logged _ _

theorem threadStep_does {host next : Host σ} {now : Time} {refusal : Option Fault}
    {events : List HostEvent} (h : host.threadStep now refusal = some (next, events)) :
    host.Does (.thread now refusal) next events := by
  obtain ⟨active, hactive, h⟩ := Option.bind_eq_some_iff.1 h
  obtain ⟨stopRequested, thread⟩ := active
  -- The thread goes on by what is left for it to do; one that is finished has no turn.
  cases thread with
  | playing output play =>
    cases hresult : play.result? with
    | some result =>
      simp only [hresult] at h
      cases h
      exact .report (thread?_of_active hactive) (by simp [record?, hactive, hresult]) rfl rfl rfl
        (silent_reportResult _ _)
    | none =>
      simp only [hresult] at h
      cases h
      exact .play (thread?_of_active hactive) hresult (by simp [record?, hactive, hresult])
        rfl rfl rfl
  | leaving output =>
    cases h
    exact .leave (thread?_of_active hactive) (by simp [record?, hactive]) rfl rfl rfl
  | returned output => cases h
  | crashed => cases h

theorem crash_does {host next : Host σ} (h : host.crash = some next) :
    host.Does .crash next [] := by
  obtain ⟨active, hactive, h⟩ := Option.bind_eq_some_iff.1 h
  obtain ⟨stopRequested, thread⟩ := active
  cases thread with
  | playing output play =>
    simp only at h
    split at h
    · cases h
      exact .crash (thread?_of_active hactive) rfl rfl rfl
    · cases h
  | _ => cases h

theorem does_of_step {host next : Host σ} {turn : Turn} {events : List HostEvent}
    (h : host.step turn = some (next, events)) : host.Does turn next events := by
  cases turn with
  | request request found =>
    simp only [step] at h
    split at h
    · rename_i hready
      have hquiet := beginRequest_quiet host request found hready
      rw [Option.some.inj h] at hquiet
      exact .quiet hquiet
    · cases h
  | compile path source =>
    simp only [step] at h
    split at h
    · cases h
      exact .quiet ⟨rfl, rfl, by simp [Task.isSettled], by simp [Task.next?], by simp, rfl,
        silent_nil⟩
    · cases h
  | collect =>
    simp only [step] at h
    split at h
    · split at h
      · cases h
        exact .quiet ⟨rfl, rfl, by simp [Task.isSettled], by simp [Task.next?], by simp, rfl,
          silent_nil⟩
      · cases h
        exact .quiet ⟨rfl, rfl, .inl, .inl, by simp, rfl, silent_nil⟩
    · cases h
  | host closeFailure => exact work_does h
  | thread now refusal => exact threadStep_does h
  | crash =>
    obtain ⟨next, hcrash, he⟩ := Option.map_eq_some_iff.1 h
    cases he
    exact crash_does hcrash
  | stop =>
    obtain ⟨active, hactive, he⟩ := Option.bind_eq_some_iff.1 h
    cases he
    exact .quiet ⟨rfl, by simp [thread?, hactive], .inl, .inl, by simp, rfl, silent_nil⟩

theorem run_cons_eq_some_iff {host later : Host σ} {turn : Turn} {rest : List Turn}
    {seen : List HostEvent} :
    host.run (turn :: rest) = some (later, seen) ↔ ∃ next events more,
      host.step turn = some (next, events) ∧ next.run rest = some (later, more) ∧
        seen = events ++ more := by
  simp only [run, Option.bind_eq_bind, Option.bind_eq_some_iff, Prod.exists, Option.some.injEq,
    Prod.mk.injEq]
  constructor
  · rintro ⟨next, events, hstep, last, more, hrun, rfl, rfl⟩
    exact ⟨next, events, more, hstep, hrun, rfl⟩
  · rintro ⟨next, events, more, hstep, hrun, rfl⟩
    exact ⟨next, events, hstep, later, more, hrun, rfl, rfl⟩

end Host

-- ---------------------------------------------------------------------------
-- Chronicles
-- ---------------------------------------------------------------------------

structure Chronicle (σ : Type) where
  host : Host σ
  turns : List Turn := []
  runs : List Run := []
  events : List HostEvent := []

namespace Chronicle

variable {σ : Type}

def extend (chronicle : Chronicle σ) (turn : Turn) (host : Host σ) (events : List HostEvent) :
    Chronicle σ where
  host := host
  turns := chronicle.turns ++ [turn]
  runs := Entry.addTo chronicle.runs (chronicle.host.record? turn)
  events := chronicle.events ++ events

@[simp] theorem extend_host (chronicle : Chronicle σ) (turn : Turn) (host : Host σ)
    (events : List HostEvent) : (chronicle.extend turn host events).host = host := rfl

def step (chronicle : Chronicle σ) (turn : Turn) : Option (Chronicle σ) :=
  (chronicle.host.step turn).map fun next => chronicle.extend turn next.1 next.2

def after (chronicle : Chronicle σ) (turns : List Turn) : Option (Chronicle σ) :=
  turns.foldlM step chronicle

def ofHost (host : Host σ) : Chronicle σ := { host }

def writes (chronicle : Chronicle σ) : List Event := chronicle.events.filterMap HostEvent.write?

theorem step_eq_some_iff {chronicle next : Chronicle σ} {turn : Turn} :
    chronicle.step turn = some next ↔ ∃ host events,
      chronicle.host.step turn = some (host, events) ∧
      next = chronicle.extend turn host events := by
  rw [step, Option.map_eq_some_iff]
  constructor
  · rintro ⟨⟨host, events⟩, hstep, rfl⟩
    exact ⟨host, events, hstep, rfl⟩
  · rintro ⟨host, events, hstep, rfl⟩
    exact ⟨(host, events), hstep, rfl⟩

theorem after_cons (chronicle : Chronicle σ) (turn : Turn) (rest : List Turn) :
    chronicle.after (turn :: rest) = (chronicle.step turn).bind (·.after rest) := rfl

theorem run_of_after {chronicle later : Chronicle σ} {turns : List Turn}
    (h : chronicle.after turns = some later) : ∃ events,
      chronicle.host.run turns = some (later.host, events) ∧
      later.events = chronicle.events ++ events := by
  induction turns generalizing chronicle with
  | nil =>
    obtain rfl := Option.some.inj h
    exact ⟨[], rfl, by simp⟩
  | cons turn rest ih =>
    obtain ⟨next, hnext, hrest⟩ := Option.bind_eq_some_iff.1 h
    obtain ⟨host, seen, hstep, rfl⟩ := step_eq_some_iff.1 hnext
    obtain ⟨events, hrun, he⟩ := ih hrest
    refine ⟨seen ++ events, ?_, by rw [he, extend, List.append_assoc]⟩
    exact Host.run_cons_eq_some_iff.2 ⟨host, seen, events, hstep, hrun, rfl⟩

/-- Every run of a host has its chronicle. -/
theorem after_of_run {chronicle : Chronicle σ} {turns : List Turn} {host : Host σ}
    {events : List HostEvent} (h : chronicle.host.run turns = some (host, events)) :
    ∃ later, chronicle.after turns = some later ∧ later.host = host ∧
      later.events = chronicle.events ++ events := by
  induction turns generalizing chronicle events with
  | nil =>
    cases h
    exact ⟨chronicle, rfl, rfl, by simp⟩
  | cons turn rest ih =>
    obtain ⟨middle, seen, more, hstep, hrun, rfl⟩ := Host.run_cons_eq_some_iff.1 h
    change (chronicle.extend turn middle seen).host.run rest = _ at hrun
    obtain ⟨later, hlater, rfl, he⟩ := ih hrun
    refine ⟨later, ?_, rfl, by rw [he, extend, List.append_assoc]⟩
    rw [after_cons, step_eq_some_iff.2 ⟨middle, seen, hstep, rfl⟩, Option.bind_some, hlater]

end Chronicle

end PadScript
