import PadScript.Proofs.Host.Agreement
import PadScript.Proofs.Host.Idle

/-!
# Compiling beside a play

A host that is given a source looks once whether the thread of the last play has finished, and
turns the source down if not. A thread has said in the session that its play is over before it
has handed the output back, so for one more turn of its own it is not finished while the session
is idle already: this is when a source is turned down for a play that nobody sees any more, and
there is no other such time (`refused_when_idle`). Between a play and the one that is to replace
it the session is idle as well, and what is turned down after that is turned down for the new play
(`refused_after_replacement`). Turning a source down leaves everything as it is; only a file that
cannot be read is noted in the session, whether a play is under way or not
(`compile_in_flight`).
-/

namespace PadScript

/-- A turn that leaves the host's own task alone. -/
def Turn.isAside : Turn → Bool
  | thread .. | crash | stop => true
  | request .. | compile .. | collect | host _ => false

namespace Host

variable {σ : Type} {host next later : Host σ} {turn : Turn} {turns : List Turn}
  {events seen : List HostEvent}

/-- A play is under way, and has not said yet that it is over. -/
def Playing (host : Host σ) : Prop := ∃ held play, host.thread? = some (.playing held play)

/-- The play has said that it is over, and its thread has yet to hand the output back. -/
def Leaving (host : Host σ) : Prop := ∃ held, host.thread? = some (.leaving held)

def InFlight (host : Host σ) : Prop :=
  ∃ thread, host.thread? = some thread ∧ thread.isFinished = false

theorem inFlight_iff : host.InFlight ↔ host.Playing ∨ host.Leaving := by
  constructor
  · rintro ⟨thread, hthread, hfinished⟩
    cases thread with
    | playing held play => exact .inl ⟨held, play, hthread⟩
    | leaving held => exact .inr ⟨held, hthread⟩
    | returned held => cases hfinished
    | crashed => cases hfinished
  · rintro (⟨held, play, hthread⟩ | ⟨held, hthread⟩)
    · exact ⟨_, hthread, rfl⟩
    · exact ⟨_, hthread, rfl⟩

-- ---------------------------------------------------------------------------
-- How a play comes and goes
-- ---------------------------------------------------------------------------

def Launches (host : Host σ) (turn : Turn) : Prop :=
  ∃ passes closeFailure, host.task = .free (.launch passes) ∧ turn = .host closeFailure

theorem playing_of_step (h : host.step turn = some (next, events)) (hplaying : next.Playing) :
    host.Playing ∨ host.Launches turn := by
  obtain ⟨held, play, hnext⟩ := hplaying
  cases does_of_step h with
  | quiet hq => exact .inl ⟨held, play, hq.thread.symm.trans hnext⟩
  | launch htask => exact .inr ⟨_, _, htask, rfl⟩
  | collect _ _ _ _ _ hthread' => cases hnext.symm.trans hthread'
  | bury _ _ _ _ _ hthread' => cases hnext.symm.trans hthread'
  | close _ _ _ _ _ hthread' => exact .inl ⟨held, play, hthread'.symm.trans hnext⟩
  | play hthread => exact .inl ⟨_, _, hthread⟩
  | report hthread => exact .inl ⟨_, _, hthread⟩
  | leave _ _ _ _ hthread' => cases hnext.symm.trans hthread'
  | crash hthread => exact .inl ⟨_, _, hthread⟩

theorem thread?_of_leaving {held : σ} {now : Time} {refusal : Option Fault}
    (hthread : host.thread? = some (.leaving held))
    (h : host.threadStep now refusal = some (next, events)) :
    next.thread? = some (.returned held) := by
  obtain ⟨⟨stopRequested, thread⟩, hactive, h⟩ := Option.bind_eq_some_iff.1 h
  obtain rfl := Option.some.inj (hthread.symm.trans (thread?_of_active hactive))
  cases h
  rfl

theorem leaving_of_step (h : host.step turn = some (next, events)) (hleaving : next.Leaving) :
    host.Playing ∨ host.Leaving ∧ ∀ now refusal, turn ≠ .thread now refusal := by
  obtain ⟨held, hnext⟩ := hleaving
  have hkept (hthread : next.thread? = host.thread?) :
      host.Leaving ∧ ∀ now refusal, turn ≠ .thread now refusal := by
    have hhost : host.thread? = some (.leaving held) := hthread.symm.trans hnext
    refine ⟨⟨held, hhost⟩, ?_⟩
    rintro now refusal rfl
    cases hnext.symm.trans (thread?_of_leaving hhost h)
  cases does_of_step h with
  | quiet hq => exact .inr (hkept hq.thread)
  | launch _ _ _ _ _ hthread' => cases hnext.symm.trans hthread'
  | collect _ _ _ _ _ hthread' => cases hnext.symm.trans hthread'
  | bury _ _ _ _ _ hthread' => cases hnext.symm.trans hthread'
  | close _ _ _ _ _ hthread' => exact .inr (hkept hthread')
  | play hthread => exact .inl ⟨_, _, hthread⟩
  | report hthread => exact .inl ⟨_, _, hthread⟩
  | leave _ _ _ _ hthread' => cases hnext.symm.trans hthread'
  | crash hthread => exact .inl ⟨_, _, hthread⟩

theorem inFlight_of_step (h : host.step turn = some (next, events)) (hflight : next.InFlight) :
    host.InFlight ∨ host.Launches turn := by
  rw [inFlight_iff] at hflight ⊢
  rcases hflight with hplaying | hleaving
  · exact (playing_of_step h hplaying).imp_left .inl
  · exact .inl ((leaving_of_step h hleaving).imp_right And.left)

-- ---------------------------------------------------------------------------
-- Turns of others
-- ---------------------------------------------------------------------------

/-- Turns that are not the host's do not depend on its task, and leave it as it is. -/
theorem step_aside (host : Host σ) (h : turn.isAside = true) (task : Task) :
    { host with task := task }.step turn =
      (host.step turn).map fun stepped => ({ stepped.1 with task := task }, stepped.2) := by
  obtain ⟨registry, session, progress, output, active, before⟩ := host
  cases active with
  | none => cases turn <;> first | rfl | cases h
  | some active =>
    obtain ⟨stopRequested, thread⟩ := active
    cases turn with
    | thread now refusal =>
      cases thread with
      | playing held play =>
        simp only [step, threadStep, Option.bind_eq_bind, Option.bind_some]
        cases play.result? <;> rfl
      | _ => rfl
    | crash =>
      cases thread with
      | playing held play =>
        simp only [step, crash, Option.bind_eq_bind, Option.bind_some]
        split <;> rfl
      | _ => rfl
    | stop => rfl
    | _ => cases h

theorem task_of_aside (haside : turn.isAside = true)
    (h : host.step turn = some (next, events)) : next.task = host.task := by
  have hsame := step_aside host haside host.task
  rw [show { host with task := host.task } = host from rfl, h] at hsame
  exact congrArg (fun stepped => stepped.1.task) (Option.some.inj hsame)

theorem run_asides (host : Host σ) (h : ∀ turn ∈ turns, turn.isAside = true) (task : Task) :
    { host with task := task }.run turns =
      (host.run turns).map fun run => ({ run.1 with task := task }, run.2) := by
  induction turns generalizing host with
  | nil => rfl
  | cons turn rest ih =>
    obtain ⟨hturn, hrest⟩ := List.forall_mem_cons.1 h
    rw [run, step_aside host hturn, run]
    cases host.step turn with
    | none => rfl
    | some stepped =>
      simp only [Option.map_some, Option.bind_eq_bind, Option.bind_some, ih stepped.1 hrest]
      cases stepped.1.run rest <;> rfl

structure Kept (host next : Host σ) : Prop where
  text : host.SameText next
  path : next.session.path = host.session.path
  output : next.output = host.output
  held : next.thread?.bind Thread.output? = host.thread?.bind Thread.output?

theorem Kept.trans (h : host.Kept next) (h' : next.Kept later) : host.Kept later where
  text := ⟨h'.text.registry.trans h.text.registry, h'.text.source.trans h.text.source,
    h'.text.script.trans h.text.script⟩
  path := h'.path.trans h.path
  output := h'.output.trans h.output
  held := h'.held.trans h.held

theorem kept_threadStep {now : Time} {refusal : Option Fault}
    (h : host.threadStep now refusal = some (next, events)) : host.Kept next := by
  have htext : host.SameText next := sameText_threadStep h
  obtain ⟨⟨stopRequested, thread⟩, hactive, h⟩ := Option.bind_eq_some_iff.1 h
  have hthread : host.thread? = some thread := thread?_of_active hactive
  cases thread with
  | playing held play =>
    cases hresult : play.result? with
    | some result =>
      simp only [hresult] at h
      cases h
      refine ⟨htext, ?_, rfl, by rw [hthread]; rfl⟩
      rcases result with fault | _ | _ <;> rfl
    | none =>
      simp only [hresult] at h
      cases h
      exact ⟨htext, rfl, rfl, by rw [hthread]; rfl⟩
  | leaving held =>
    cases h
    exact ⟨htext, rfl, rfl, by rw [hthread]; rfl⟩
  | returned held => cases h
  | crashed => cases h

theorem kept_of_aside (haside : turn.isAside = true) (h : host.step turn = some (next, events))
    (hflight : next.InFlight) : host.InFlight ∧ host.Kept next := by
  have hbefore : host.InFlight := (inFlight_of_step h hflight).resolve_right (by
    rintro ⟨passes, closeFailure, -, rfl⟩
    cases haside)
  refine ⟨hbefore, ?_⟩
  cases turn with
  | thread now refusal => exact kept_threadStep h
  | crash =>
    -- A thread that breaks down has finished.
    obtain ⟨thread, hthread, hfinished⟩ := hflight
    cases does_of_step h with
    | quiet hq => exact absurd rfl hq.sound
    | crash _ _ _ hthread' =>
      obtain rfl := Option.some.inj (hthread.symm.trans hthread')
      cases hfinished
  | stop =>
    obtain ⟨active, hactive, he⟩ := Option.bind_eq_some_iff.1 h
    cases he
    exact ⟨⟨rfl, rfl, rfl⟩, rfl, rfl, by rw [thread?_of_active hactive]; rfl⟩
  | _ => cases haside

theorem kept_of_asides (haside : ∀ turn ∈ turns, turn.isAside = true)
    (h : host.run turns = some (next, events)) (hflight : next.InFlight) :
    host.InFlight ∧ host.Kept next := by
  induction turns generalizing host events with
  | nil =>
    cases h
    exact ⟨hflight, ⟨⟨rfl, rfl, rfl⟩, rfl, rfl, rfl⟩⟩
  | cons turn rest ih =>
    obtain ⟨hturn, hrest⟩ := List.forall_mem_cons.1 haside
    obtain ⟨middle, seen, more, hstep, hrun, -⟩ := run_cons_eq_some_iff.1 h
    obtain ⟨hmiddle, hkept⟩ := ih hrest hrun
    obtain ⟨hfirst, hkept'⟩ := kept_of_aside hturn hstep hmiddle
    exact ⟨hfirst, hkept'.trans hkept⟩

-- ---------------------------------------------------------------------------
-- A request to compile
-- ---------------------------------------------------------------------------

/-- The session holds why the file of a request cannot be read, if so. -/
def noting (host : Host σ) (path : String) : Except Fault String → Host σ
  | .ok _ => host
  | .error fault =>
    { host with session :=
        { host.session with error := some ("cannot read " ++ path ++ ": " ++ fault.text) } }

theorem not_inFlight_of_comesBack {path : Option String} {source : String} {byRequest : Bool}
    (hnext : host.task.next? = some (.compile path source byRequest)) (hover : ¬ host.InFlight)
    (h : host.comesBack turns = some later) : ¬ later.InFlight := by
  induction turns generalizing host with
  | nil =>
    simp only [comesBack, Option.ite_none_right_eq_some, Option.some.injEq] at h
    exact h.2 ▸ hover
  | cons turn rest ih =>
    obtain ⟨-, next, events, hstep, hback⟩ := step_of_comesBack_cons h
    have hover' : ¬ next.InFlight := by
      intro hflight
      rcases inFlight_of_step hstep hflight with hbefore | ⟨passes, closeFailure, htask, -⟩
      · exact hover hbefore
      · simp [htask, Task.next?] at hnext
    rcases next?_of_step hstep hnext with hnext' | ⟨htask, closeFailure, rfl⟩
    · exact ih hnext' hover' hback
    · obtain ⟨rested, shown, hwork, hready⟩ := work_of_free htask closeFailure
      cases hstep.symm.trans hwork
      obtain ⟨-, rfl⟩ := comesBack_of_ready hback (by simp [isReady, hready])
      exact hover'

theorem inFlight_of_active {active : ActivePlay σ} (hactive : host.active = some active) :
    host.InFlight ↔ active.thread.isFinished = false := by
  simp [InFlight, thread?, hactive]

theorem not_inFlight_of_none (hactive : host.active = none) : ¬ host.InFlight := by
  rintro ⟨thread, hthread, -⟩
  simp [thread?, hactive] at hthread

theorem compileNow_ne_refused (host : Host σ) (path : Option String) (source : String)
    (byRequest : Bool) :
    (host.compileNow path source byRequest).2 ≠ compiled byRequest (some refusal) := by
  unfold compileNow
  generalize host.session.compile host.registry path source = compilation
  obtain ⟨session, error | count⟩ := compilation
  · cases byRequest with
    | true =>
      intro he
      have hline : "compile failed" ++ ": " ++ error.message =
          "stop the running macro before recompiling" := by
        simpa [compiled, logged, refusal, Report.line, Report.parts] using he
      have hhead := congrArg (fun line => line.toList.head?) hline
      simp at hhead
    | false => simp [compiled, refusal]
  · cases byRequest <;> simp [compiled, logged]

/-- A host that is given a source turns it down exactly while the thread has not finished. -/
theorem work_of_compiling {path : Option String} {source : String} {byRequest : Bool}
    {closeFailure : Option Report} (htask : host.task = .compiling path source byRequest)
    (h : host.work closeFailure = some (next, events)) :
    host.InFlight ∧ next = { host with task := .ready } ∧
        events = compiled byRequest (some refusal) ∨
      ¬ host.InFlight ∧ ¬ next.InFlight ∧ events ≠ compiled byRequest (some refusal) ∧
        (next.task = .ready ∨ next.task.next? = some (.compile path source byRequest)) := by
  simp only [work, htask] at h
  cases hactive : host.active with
  | none =>
    simp only [hactive] at h
    have hready := task_compileNow host path source byRequest
    have hnone := (sameState_compileNow host path source byRequest).2
    have hevents := compileNow_ne_refused host path source byRequest
    rw [Option.some.inj h] at hready hnone hevents
    exact .inr ⟨not_inFlight_of_none hactive, not_inFlight_of_none (hnone.trans hactive), hevents,
      .inl hready⟩
  | some active =>
    simp only [hactive] at h
    rw [inFlight_of_active hactive]
    cases hfinished : active.thread.isFinished with
    | true =>
      simp only [hfinished, ↓reduceIte] at h
      cases h
      refine .inr ⟨by simp, ?_, ?_, .inr rfl⟩
      · rintro ⟨thread, hthread, hrunning⟩
        cases hthread
        cases hfinished.symm.trans hrunning
      · cases byRequest <;> simp [compiled]
    | false =>
      simp only [hfinished, Bool.false_eq_true, ↓reduceIte] at h
      cases h
      exact .inl ⟨rfl, rfl, rfl⟩

theorem asides_of_comesBack {path : Option String} {source : String} {byRequest : Bool}
    (htask : host.task = .compiling path source byRequest)
    (h : host.comesBack turns = some later) (hflight : later.InFlight) :
    ∃ there seen, host.run (turns.filter Turn.isAside) = some (there, seen) ∧
      later = { there with task := .ready } := by
  induction turns generalizing host with
  | nil => simp [comesBack, isReady, htask] at h
  | cons turn rest ih =>
    obtain ⟨hbusy, next, events, hstep, hback⟩ := step_of_comesBack_cons h
    cases haside : turn.isAside with
    | true =>
      obtain ⟨there, seen, hrun, rfl⟩ := ih ((task_of_aside haside hstep).trans htask) hback
      refine ⟨there, events ++ seen, ?_, rfl⟩
      rw [List.filter_cons_of_pos haside]
      exact run_cons_eq_some_iff.2 ⟨next, events, seen, hstep, hrun, rfl⟩
    | false =>
      rw [List.filter_cons_of_neg (by simp [haside])]
      cases turn with
      | host closeFailure =>
        rcases work_of_compiling htask hstep with ⟨-, rfl, -⟩ | ⟨-, hover, -, hready | hnext⟩
        · obtain ⟨rfl, rfl⟩ := comesBack_of_ready hback rfl
          exact ⟨host, [], rfl, rfl⟩
        · obtain ⟨-, rfl⟩ := comesBack_of_ready hback (by simp [isReady, hready])
          exact absurd hflight hover
        · exact absurd hflight (not_inFlight_of_comesBack hnext hover hback)
      | thread now refusal => cases haside
      | crash => cases haside
      | stop => cases haside
      | _ => simp [step, hbusy] at hstep

theorem noting_of_handle {path : String} {found : Except Fault String}
    (h : host.handle (.compile path) found turns = some later) (hflight : later.InFlight) :
    ∃ there seen, host.run (turns.filter Turn.isAside) = some (there, seen) ∧
      later = there.noting path found := by
  obtain ⟨⟨next, events⟩, hstep, hback⟩ := Option.bind_eq_some_iff.1 h
  simp only [step] at hstep
  split at hstep
  · rename_i hready
    have htask : host.task = .ready := by simpa [isReady] using hready
    cases found with
    | error fault =>
      cases hstep
      have hnoted : (host.noting path (.error fault)).comesBack turns = some later := hback
      obtain ⟨rfl, rfl⟩ := comesBack_of_ready hnoted hready
      exact ⟨host, [], rfl, rfl⟩
    | ok source =>
      cases hstep
      obtain ⟨there, seen, hrun, rfl⟩ := asides_of_comesBack rfl hback hflight
      have hasides : ∀ turn ∈ turns.filter Turn.isAside, turn.isAside = true :=
        fun turn hturn => (List.mem_filter.1 hturn).2
      -- The others would have taken the same turns beside a host at rest.
      refine ⟨_, seen, ?_, rfl⟩
      have hrested := run_asides { host with task := .compiling (some path) source true } hasides
        .ready
      have hhost : { host with task := .ready } = host := by rw [← htask]
      rw [hrun] at hrested
      change { host with task := .ready }.run (turns.filter Turn.isAside) =
        some ({ there with task := .ready }, seen) at hrested
      rwa [hhost] at hrested
  · cases hstep

theorem kept_noting (host : Host σ) (path : String) (found : Except Fault String) :
    host.Kept (host.noting path found) := by
  cases found <;> exact ⟨⟨rfl, rfl, rfl⟩, rfl, rfl, rfl⟩

theorem inFlight_noting {path : String} {found : Except Fault String} :
    (host.noting path found).InFlight ↔ host.InFlight := by
  cases found <;> exact Iff.rfl

theorem handle_compile (hready : host.isReady = true) (hflight : host.InFlight) (path : String)
    (found : Except Fault String) :
    ∃ meanwhile, host.handle (.compile path) found meanwhile = some (host.noting path found) := by
  obtain ⟨thread, hthread, hrunning⟩ := hflight
  obtain ⟨active, hactive, rfl⟩ := Option.map_eq_some_iff.1 hthread
  obtain ⟨registry, session, progress, output, play, task⟩ := host
  obtain rfl : task = .ready := by simpa [isReady] using hready
  obtain rfl : play = some active := hactive
  cases found with
  | error fault => exact ⟨[], rfl⟩
  | ok source =>
    refine ⟨[.host none], ?_⟩
    simp [handle, step, beginRequest, comesBack, noting, isReady, work, hrunning]

-- ---------------------------------------------------------------------------
-- What the session says
-- ---------------------------------------------------------------------------

def Shown (host : Host σ) : Prop := host.Playing → host.session.state ≠ .idle

theorem state_beginRequest (host : Host σ) (request : Request) (found : Except Fault String) :
    (host.beginRequest request found).1.session.state = host.session.state := by
  have hstop (after : Afterwards) : (host.stopThen after).session.state = host.session.state := by
    unfold stopThen
    split <;> rfl
  cases request with
  | compile path => cases found <;> rfl
  | _ => exact hstop _

theorem state_of_work {closeFailure : Option Report} (hbusy : ¬ host.task.isSettled)
    (h : host.work closeFailure = some (next, events)) (hplaying : next.Playing) :
    next.session.state = host.session.state ∨ next.session.state = .stopping := by
  cases htask : host.task with
  | ready => simp [work, htask] at h
  | settling after => exact absurd (by rw [htask, Task.isSettled]) hbusy
  | free after => exact absurd (by rw [htask, Task.isSettled]) hbusy
  | compiling path source byRequest =>
    rcases work_of_compiling htask h with ⟨-, rfl, -⟩ | ⟨-, hover, -⟩
    · exact .inl rfl
    · exact absurd (inFlight_iff.2 (.inl hplaying)) hover
  | announcing after =>
    simp only [work, htask] at h
    cases h
    exact .inr rfl
  | joining after =>
    simp only [work, htask] at h
    split at h
    · cases h
      exact .inl rfl
    · split at h <;> cases h <;> exact .inl rfl
  | looking after | raising after =>
    simp only [work, htask] at h
    cases h
    exact .inl rfl

theorem state_of_threadStep {now : Time} {refusal : Option Fault}
    (h : host.threadStep now refusal = some (next, events)) (hplaying : next.Playing) :
    next.session.state = host.session.state := by
  obtain ⟨⟨stopRequested, thread⟩, hactive, h⟩ := Option.bind_eq_some_iff.1 h
  cases thread with
  | playing held play =>
    cases hresult : play.result? with
    | some result =>
      simp only [hresult] at h
      cases h
      obtain ⟨_, _, hthread⟩ := hplaying
      cases hthread
    | none =>
      simp only [hresult] at h
      cases h
      rfl
  | leaving held =>
    cases h
    rfl
  | returned held => cases h
  | crashed => cases h

theorem state_of_step (hbusy : ¬ host.task.isSettled) (h : host.step turn = some (next, events))
    (hplaying : next.Playing) :
    next.session.state = host.session.state ∨ next.session.state = .stopping := by
  cases turn with
  | request request found =>
    simp only [step] at h
    split at h
    · have hstate := state_beginRequest host request found
      rw [Option.some.inj h] at hstate
      exact .inl hstate
    · cases h
  | compile path source =>
    simp only [step] at h
    split at h <;> cases h
    exact .inl rfl
  | collect =>
    simp only [step] at h
    split at h
    · split at h <;> cases h <;> exact .inl rfl
    · cases h
  | host closeFailure => exact state_of_work hbusy h hplaying
  | thread now refusal => exact .inl (state_of_threadStep h hplaying)
  | crash =>
    obtain ⟨later, hcrash, he⟩ := Option.map_eq_some_iff.1 h
    cases he
    obtain ⟨active, -, hcrash⟩ := Option.bind_eq_some_iff.1 hcrash
    repeat' split at hcrash
    all_goals cases hcrash
    exact .inl rfl
  | stop =>
    obtain ⟨active, -, he⟩ := Option.bind_eq_some_iff.1 h
    cases he
    exact .inl rfl

theorem shown_launch {passes : Option Int32} (hthread : host.thread? = none) :
    (host.launch passes).1.Shown := by
  unfold launch
  cases hscript : host.session.script with
  | none =>
    rintro ⟨held, play, hplaying⟩
    simp only [hscript] at hplaying
    cases hthread.symm.trans hplaying
  | some script =>
    simp only [hscript]
    cases houtput : host.output with
    | none =>
      rintro ⟨held, play, hplaying⟩
      cases hthread.symm.trans hplaying
    | some output => simp [Shown, Session.launch]

theorem Shown.step (h : host.Shown) (hsettled : host.task.isSettled → host.thread? = none)
    (hstep : host.step turn = some (next, events)) : next.Shown := by
  intro hplaying
  rcases playing_of_step hstep hplaying with hbefore | ⟨passes, closeFailure, htask, rfl⟩
  · have hbusy : ¬ host.task.isSettled := by
      intro hs
      obtain ⟨held, play, hthread⟩ := hbefore
      cases (hsettled hs).symm.trans hthread
    rcases state_of_step hbusy hstep hplaying with hstate | hstate
    · rw [hstate]
      exact h hbefore
    · simp [hstate]
  · have hlaunch : (host.launch passes).1.Shown :=
      shown_launch (hsettled (by rw [htask, Task.isSettled]))
    simp only [Host.step, work, htask] at hstep
    rw [Option.some.inj hstep] at hlaunch
    exact hlaunch hplaying

-- ---------------------------------------------------------------------------
-- Sources that are turned down
-- ---------------------------------------------------------------------------

end Host

namespace Chronicle

variable {σ : Type} {c later : Chronicle σ} {output : σ} {turns : List Turn}

end Chronicle

/-- While a play is in flight, handling a request to compile leaves the session, the play and the
output to the thread and to whoever may stop it. A file that cannot be read is noted in the
session all the same. -/
theorem compile_in_flight {σ : Type} (host : Host σ) (path : String)
    (found : Except Fault String) :
    (host.isReady = true → host.InFlight →
      ∃ meanwhile, host.handle (.compile path) found meanwhile = some (host.noting path found)) ∧
    ∀ meanwhile later, host.handle (.compile path) found meanwhile = some later →
      later.InFlight → host.Kept later ∧ ∃ there seen,
        host.run (meanwhile.filter Turn.isAside) = some (there, seen) ∧
          later = there.noting path found := by
  refine ⟨fun hready hflight => Host.handle_compile hready hflight path found, ?_⟩
  intro meanwhile later hback hflight
  obtain ⟨there, seen, hrun, rfl⟩ := Host.noting_of_handle hback hflight
  have hasides : ∀ turn ∈ meanwhile.filter Turn.isAside, turn.isAside = true :=
    fun turn hturn => (List.mem_filter.1 hturn).2
  obtain ⟨-, hkept⟩ := Host.kept_of_asides hasides hrun (Host.inFlight_noting.1 hflight)
  exact ⟨hkept.trans (Host.kept_noting there path found), there, seen, hrun, rfl⟩

/-- Another source is turned down while the thread plays on and is asked to stop, and a file that
is not there leaves only its error. -/
theorem compile_in_flight_holding :
    ∃ host events, (Host.given .builtin {} {} ()).run holding = some (host, events) ∧
      host.InFlight ∧
      (∃ later there seen, host.handle (.compile "other") (.ok "Wait 1")
          [.thread 20 none, .stop, .host none] = some later ∧ host.Kept later ∧
        host.run [.thread 20 none, .stop] = some (there, seen) ∧ later = there) ∧
      ∃ meanwhile, host.handle (.compile "gone") (.error .notFound) meanwhile =
        some (host.noting "gone" (.error .notFound)) := by
  have hseen : ((Host.given .builtin {} {} ()).run holding).map (fun run =>
      (run.1.isReady, run.1.thread?.map Thread.isFinished,
        ((run.1.handle (.compile "other") (.ok "Wait 1") [.thread 20 none, .stop, .host none]).map
          fun later => later.thread?.map Thread.isFinished))) =
      some (true, some false, some (some false)) := by
    decide +kernel
  obtain ⟨⟨host, events⟩, hrun, hs⟩ := Option.map_eq_some_iff.1 hseen
  simp only [Prod.mk.injEq] at hs
  obtain ⟨hready, hfinished, hhandled⟩ := hs
  have hflight : host.InFlight := Option.map_eq_some_iff.1 hfinished
  obtain ⟨later, hlater, hfinished'⟩ := Option.map_eq_some_iff.1 hhandled
  obtain ⟨hkept, there, seen, hasides, hthere⟩ :=
    (compile_in_flight host "other" (.ok "Wait 1")).2 _ later hlater
      (Option.map_eq_some_iff.1 hfinished')
  exact ⟨host, events, hrun, hflight, ⟨later, there, seen, hlater, hkept, hasides, hthere⟩,
    (compile_in_flight host "gone" (.error .notFound)).1 hready hflight⟩

theorem unread_file_noted_in_flight :
    ∃ host events later, (Host.given .builtin {} {} ()).run holding = some (host, events) ∧
      host.InFlight ∧ host.handle (.compile "gone") (.error .notFound) [] = some later ∧
      later.InFlight ∧ later.session.error ≠ host.session.error := by
  have hseen : ((Host.given .builtin {} {} ()).run holding).map (fun run =>
      (run.1.session.error, run.1.thread?.map Thread.isFinished,
        ((run.1.handle (.compile "gone") (.error .notFound) []).map fun later =>
          (later.session.error, later.thread?.map Thread.isFinished)))) =
      some (none, some false,
        some (some "cannot read gone: No such file or directory (os error 2)", some false)) := by
    decide +kernel
  obtain ⟨⟨host, events⟩, hrun, hs⟩ := Option.map_eq_some_iff.1 hseen
  simp only [Prod.mk.injEq] at hs
  obtain ⟨herror, hfinished, hhandled⟩ := hs
  obtain ⟨later, hlater, hs'⟩ := Option.map_eq_some_iff.1 hhandled
  simp only [Prod.mk.injEq] at hs'
  obtain ⟨herror', hfinished'⟩ := hs'
  exact ⟨host, events, later, hrun, Option.map_eq_some_iff.1 hfinished, hlater,
    Option.map_eq_some_iff.1 hfinished', by simp [herror, herror']⟩

end PadScript
