import PadScript.Proofs.Host.Chronicle
import PadScript.Proofs.Play.Ending

/-!
# A host comes to rest

Whatever a host has begun, it can bring to an end with its own turns and those of its
thread: it waits only for a thread that has finished or was asked to stop, and a play
that is asked to stop ends (`Host.comesToRest`).
-/

namespace PadScript

/-- A turn of the host's task or of the thread, which nobody else has to take. -/
def Turn.isOwn : Turn → Bool
  | host _ | thread .. => true
  | request .. | compile .. | collect | crash | stop => false

namespace Host

variable {σ : Type} {host next : Host σ} {turn : Turn} {events : List HostEvent}

theorem task_compileNow (host : Host σ) (path : Option String) (source : String)
    (byRequest : Bool) : (host.compileNow path source byRequest).1.task = .ready := by
  unfold compileNow
  generalize host.session.compile host.registry path source = compilation
  obtain ⟨session, error | count⟩ := compilation <;> rfl

theorem task_launch (host : Host σ) (passes : Option Int32) :
    (host.launch passes).1.task = .ready := by
  simp only [launch]
  split <;> rfl

theorem task_close (host : Host σ) (failure : Option Report) :
    (host.close failure).1.task = .ready := by
  simp only [close]
  cases host.output <;> rfl

theorem work_of_free {after : Afterwards} (htask : host.task = .free after)
    (closeFailure : Option Report) : ∃ next events,
      host.work closeFailure = some (next, events) ∧ next.task = .ready := by
  simp only [work, htask]
  cases after with
  | nothing => exact ⟨_, _, rfl, rfl⟩
  | launch passes => exact ⟨_, _, rfl, task_launch host passes⟩
  | close => exact ⟨_, _, rfl, task_close host closeFailure⟩
  | compile path source byRequest => exact ⟨_, _, rfl, task_compileNow host path source byRequest⟩

-- ---------------------------------------------------------------------------
-- What it waits for
-- ---------------------------------------------------------------------------

/-- A host that waits for a thread has asked it to stop, or the thread has finished. -/
def Stopping (host : Host σ) : Prop :=
  ∀ after, host.task = .joining after → ∀ active, host.active = some active →
    active.stopRequested = true ∨ active.thread.isFinished = true

theorem stopping_of_ne (h : ∀ after, host.task ≠ .joining after) : host.Stopping :=
  fun after htask => absurd htask (h after)

theorem stopping_of_ready (h : host.task = .ready) : host.Stopping :=
  stopping_of_ne (by simp [h])

theorem stopping_of_work {closeFailure : Option Report}
    (h : host.work closeFailure = some (next, events)) : next.Stopping := by
  cases htask : host.task with
  | ready => simp [work, htask] at h
  | compiling path source byRequest =>
    cases hactive : host.active with
    | none =>
      simp only [work, htask, hactive, Option.some.injEq] at h
      refine stopping_of_ready ?_
      rw [← task_compileNow host path source byRequest, h]
    | some active =>
      simp only [work, htask, hactive] at h
      split at h
      · rename_i hfinished
        cases h
        rintro - - other ⟨⟩
        exact .inr hfinished
      · cases h
        exact stopping_of_ready rfl
  | looking after =>
    simp only [work, htask] at h
    cases h
    by_cases hfinished : host.active.all (·.thread.isFinished)
    · rintro - - active hactive
      simp only at hactive
      rw [hactive] at hfinished
      exact .inr hfinished
    · exact stopping_of_ne (by simp [hfinished])
  | announcing after =>
    simp only [work, htask] at h
    cases h
    exact stopping_of_ne (by simp)
  | raising after =>
    simp only [work, htask] at h
    cases h
    rintro - - active hactive
    obtain ⟨before, -, rfl⟩ := Option.map_eq_some_iff.1 hactive
    exact .inl rfl
  | joining after =>
    simp only [work, htask] at h
    repeat' split at h
    all_goals cases h
    all_goals exact stopping_of_ne (by simp)
  | settling after =>
    simp only [work, htask] at h
    cases h
    exact stopping_of_ne (by simp)
  | free after =>
    obtain ⟨later, seen, hwork, hready⟩ := work_of_free htask closeFailure
    cases hwork.symm.trans h
    exact stopping_of_ready hready

theorem stopping_of_thread {now : Time} {refusal : Option Fault} (hs : host.Stopping)
    (h : host.threadStep now refusal = some (next, events)) : next.Stopping := by
  obtain ⟨⟨stopRequested, thread⟩, hactive, h⟩ := Option.bind_eq_some_iff.1 h
  have hstop (after : Afterwards) (htask : host.task = .joining after)
      (hrunning : thread.isFinished = false) : stopRequested = true := by
    simpa [hrunning] using hs after htask _ hactive
  cases thread with
  | playing output play =>
    simp only at h
    split at h
    all_goals
      cases h
      rintro after htask active ⟨⟩
      exact .inl (hstop after htask rfl)
  | leaving output =>
    cases h
    rintro after htask active ⟨⟩
    exact .inr rfl
  | returned output => cases h
  | crashed => cases h

theorem stopping_of_step (hs : host.Stopping) (h : host.step turn = some (next, events)) :
    next.Stopping := by
  cases turn with
  | request request found =>
    simp only [step] at h
    split at h
    · rename_i hready
      have htask : host.task = .ready := by simpa [isReady] using hready
      have hstop (after : Afterwards) : (host.stopThen after).Stopping := by
        unfold stopThen
        split <;> exact stopping_of_ne (by simp)
      cases request with
      | compile path =>
        cases found with
        | ok source =>
          cases h
          exact stopping_of_ne (by simp)
        | error fault =>
          cases h
          exact stopping_of_ready htask
      | _ =>
        cases h
        exact hstop _
    · cases h
  | compile path source =>
    simp only [step] at h
    split at h
    · cases h
      exact stopping_of_ne (by simp)
    · cases h
  | collect =>
    simp only [step] at h
    split at h
    · split at h
      · rename_i hfinished
        cases h
        rintro - - active hactive
        simp only at hactive
        rw [hactive] at hfinished
        exact .inr (by simpa using hfinished)
      · cases h
        exact hs
    · cases h
  | host closeFailure => exact stopping_of_work h
  | thread now refusal => exact stopping_of_thread hs h
  | crash =>
    obtain ⟨later, hcrash, he⟩ := Option.map_eq_some_iff.1 h
    cases he
    obtain ⟨active, -, hcrash⟩ := Option.bind_eq_some_iff.1 hcrash
    repeat' split at hcrash
    all_goals cases hcrash
    rintro - - active ⟨⟩
    exact .inr rfl
  | stop =>
    obtain ⟨active, -, he⟩ := Option.bind_eq_some_iff.1 h
    cases he
    rintro - - active ⟨⟩
    exact .inl rfl

theorem stopping_of_run {turns : List Turn} (hs : host.Stopping)
    (h : host.run turns = some (next, events)) : next.Stopping := by
  induction turns generalizing host events with
  | nil =>
    cases h
    exact hs
  | cons turn rest ih =>
    obtain ⟨middle, seen, more, hstep, hrun, -⟩ := run_cons_eq_some_iff.1 h
    exact ih (stopping_of_step hs hstep) hrun

-- ---------------------------------------------------------------------------
-- How it goes on
-- ---------------------------------------------------------------------------

/-- With turns of their own the host and its thread can come to such a state. -/
def Reaches (host : Host σ) (reached : Host σ → Prop) : Prop :=
  ∃ turns later events, (∀ turn ∈ turns, turn.isOwn = true) ∧
    host.run turns = some (later, events) ∧ reached later

variable {reached final : Host σ → Prop}

theorem run_append {turns more : List Turn} {middle later : Host σ} {seen after : List HostEvent}
    (h : host.run turns = some (middle, seen)) (h' : middle.run more = some (later, after)) :
    host.run (turns ++ more) = some (later, seen ++ after) := by
  induction turns generalizing host seen with
  | nil =>
    cases h
    exact h'
  | cons turn rest ih =>
    obtain ⟨next, first, others, hstep, hrun, rfl⟩ := run_cons_eq_some_iff.1 h
    rw [List.cons_append, List.append_assoc]
    exact run_cons_eq_some_iff.2 ⟨next, first, others ++ after, hstep, ih hrun, rfl⟩

theorem run_singleton (h : host.step turn = some (next, events)) :
    host.run [turn] = some (next, events) := by
  rw [run, h, Option.bind_eq_bind, Option.bind_some]
  simp [run]

theorem Reaches.here (h : reached host) : host.Reaches reached := ⟨[], host, [], by simp, rfl, h⟩

theorem Reaches.trans (h : host.Reaches reached)
    (hnext : ∀ later, reached later → later.Reaches final) : host.Reaches final := by
  obtain ⟨turns, middle, seen, hturns, hrun, hreached⟩ := h
  obtain ⟨more, later, after, hmore, hrun', hfinal⟩ := hnext middle hreached
  exact ⟨turns ++ more, later, seen ++ after, List.forall_mem_append.2 ⟨hturns, hmore⟩,
    run_append hrun hrun', hfinal⟩

theorem Reaches.step (hstep : host.step turn = some (next, events)) (hown : turn.isOwn = true)
    (h : next.Reaches reached) : host.Reaches reached := by
  refine Reaches.trans ⟨[turn], next, events, by simpa using hown, run_singleton hstep, rfl⟩ ?_
  rintro later rfl
  exact h

theorem Reaches.work {closeFailure : Option Report}
    (hwork : host.work closeFailure = some (next, events)) (h : next.Reaches reached) :
    host.Reaches reached :=
  .step (show host.step (.host closeFailure) = _ from hwork) rfl h

theorem Reaches.thread {now : Time} {refusal : Option Fault}
    (hthread : host.threadStep now refusal = some (next, events)) (h : next.Reaches reached) :
    host.Reaches reached :=
  .step (show host.step (.thread now refusal) = _ from hthread) rfl h

def Finished (task : Task) (host : Host σ) : Prop :=
  host.task = task ∧ ∃ active, host.active = some active ∧ active.thread.isFinished = true

section Thread

variable {stopRequested : Bool} {output : σ} {play : Play}

theorem reaches_finished_of_leaving
    (hactive : host.active = some ⟨stopRequested, .leaving output⟩) :
    host.Reaches (Finished host.task) := by
  have hstep : host.threadStep 0 none =
      some ({ host with active := some ⟨stopRequested, .returned output⟩ }, []) := by
    simp [threadStep, hactive]
  exact .thread hstep (.here ⟨rfl, _, rfl, rfl⟩)

theorem reaches_finished_of_result? {result : Except Fault Outcome}
    (hactive : host.active = some ⟨stopRequested, .playing output play⟩)
    (hresult : play.result? = some result) : host.Reaches (Finished host.task) := by
  have hstep : host.threadStep 0 none =
      some ({ host with
        session := (reportResult host.session result).1
        idleProgress := play.progress
        active := some ⟨stopRequested, .leaving output⟩ },
        (reportResult host.session result).2) := by
    simp [threadStep, hactive, hresult]
  exact .thread hstep (reaches_finished_of_leaving rfl)

theorem reaches_finished_of_playing (hactive : host.active = some ⟨true, .playing output play⟩) :
    host.Reaches (Finished host.task) := by
  let moments (n : Nat) : Moment := { now := n, stopRequested := true }
  have hm : Steady moments := ⟨Nat.le_succ, fun _ _ => rfl⟩
  obtain ⟨n, result, hresult⟩ := play.ends hm (fun time => ⟨time, Nat.le_refl time⟩)
    fun _ => ⟨0, rfl⟩
  suffices h : ∀ left i, i + left = n → ∀ host : Host σ,
      host.active = some ⟨true, .playing output (play.after moments i)⟩ →
        host.Reaches (Finished host.task) from h n 0 (Nat.zero_add n) host hactive
  intro left
  induction left with
  | zero =>
    rintro i rfl host hactive
    exact reaches_finished_of_result? hactive hresult
  | succ left ih =>
    intro i hi host hactive
    cases hover : (play.after moments i).result? with
    | some result => exact reaches_finished_of_result? hactive hover
    | none =>
      have hstep : host.threadStep i none =
          some ({ host with active := some ⟨true, .playing output (play.after moments (i + 1))⟩ },
            ((play.after moments i).advance (moments i)).2.toList.map .play) := by
        simp [threadStep, hactive, hover, Play.after, moments]
      exact .thread hstep (ih (i + 1) (by omega) _ rfl)

end Thread

theorem reaches_finished {active : ActivePlay σ} (hactive : host.active = some active)
    (hstop : active.stopRequested = true ∨ active.thread.isFinished = true) :
    host.Reaches (Finished host.task) := by
  obtain ⟨stopRequested, thread⟩ := active
  cases thread with
  | playing output play =>
    obtain rfl : stopRequested = true := by simpa [Thread.isFinished] using hstop
    exact reaches_finished_of_playing hactive
  | leaving output => exact reaches_finished_of_leaving hactive
  | returned output => exact .here ⟨rfl, _, hactive, rfl⟩
  | crashed => exact .here ⟨rfl, _, hactive, rfl⟩

-- ---------------------------------------------------------------------------
-- What it comes to
-- ---------------------------------------------------------------------------

def ComesToRest (host : Host σ) : Prop := host.Reaches fun later => later.isReady = true

theorem rests_of_ready (htask : host.task = .ready) : host.ComesToRest :=
  .here (by simp [isReady, htask])

section Task

variable {after : Afterwards}

theorem rests_of_free (htask : host.task = .free after) : host.ComesToRest := by
  obtain ⟨next, events, hwork, hready⟩ := work_of_free htask none
  exact .work hwork (rests_of_ready hready)

theorem rests_of_settling (htask : host.task = .settling after) : host.ComesToRest := by
  have hwork : host.work none =
      some ({ host with session := host.session.settle, task := .free after }, []) := by
    simp only [work, htask]
  exact .work hwork (rests_of_free rfl)

theorem rests_of_finished (htask : host.task = .joining after)
    (hfinished : ∀ active, host.active = some active → active.thread.isFinished = true) :
    host.ComesToRest := by
  suffices h : ∃ next events, host.work none = some (next, events) ∧ next.task = .settling after by
    obtain ⟨next, events, hwork, hsettling⟩ := h
    exact .work hwork (rests_of_settling hsettling)
  simp only [work, htask]
  cases hactive : host.active with
  | none => exact ⟨_, _, rfl, rfl⟩
  | some active =>
    obtain ⟨stopRequested, thread⟩ := active
    have hover := hfinished _ hactive
    cases thread with
    | playing output play => cases hover
    | leaving output => cases hover
    | returned output => exact ⟨_, _, rfl, rfl⟩
    | crashed => exact ⟨_, _, rfl, rfl⟩

theorem rests_of_joining (htask : host.task = .joining after) (hstop : host.Stopping) :
    host.ComesToRest := by
  cases hactive : host.active with
  | none => exact rests_of_finished htask (by simp [hactive])
  | some active =>
    refine (reaches_finished hactive (hstop after htask active hactive)).trans ?_
    rintro later ⟨htask', active', hactive', hfinished⟩
    refine rests_of_finished (htask'.trans htask) fun other hother => ?_
    obtain rfl := Option.some.inj (hactive'.symm.trans hother)
    exact hfinished

theorem rests_of_raising (htask : host.task = .raising after) : host.ComesToRest := by
  have hwork : ∃ next events, host.work none = some (next, events) ∧
      next.task = .joining after := by
    simp only [work, htask]
    exact ⟨_, _, rfl, rfl⟩
  obtain ⟨next, events, hwork, hjoining⟩ := hwork
  exact .work hwork (rests_of_joining hjoining (stopping_of_work hwork))

theorem rests_of_announcing (htask : host.task = .announcing after) : host.ComesToRest := by
  have hwork : ∃ next events, host.work none = some (next, events) ∧
      next.task = .raising after := by
    simp only [work, htask]
    exact ⟨_, _, rfl, rfl⟩
  obtain ⟨next, events, hwork, hraising⟩ := hwork
  exact .work hwork (rests_of_raising hraising)

end Task

theorem comesToRest (hstop : host.Stopping) : host.ComesToRest := by
  cases htask : host.task with
  | ready => exact rests_of_ready htask
  | free after => exact rests_of_free htask
  | settling after => exact rests_of_settling htask
  | joining after => exact rests_of_joining htask hstop
  | raising after => exact rests_of_raising htask
  | announcing after => exact rests_of_announcing htask
  | looking after =>
    have hwork : ∃ next events, host.work none = some (next, events) ∧
        (next.task = .joining after ∨ next.task = .announcing after) := by
      simp only [work, htask]
      refine ⟨_, _, rfl, ?_⟩
      simp only
      split
      · exact .inl rfl
      · exact .inr rfl
    obtain ⟨next, events, hwork, hjoining | hannouncing⟩ := hwork
    · exact .work hwork (rests_of_joining hjoining (stopping_of_work hwork))
    · exact .work hwork (rests_of_announcing hannouncing)
  | compiling path source byRequest =>
    have hwork : ∃ next events, host.work none = some (next, events) ∧
        (next.task = .ready ∨ next.task = .joining (.compile path source byRequest)) := by
      simp only [work, htask]
      split
      · exact ⟨_, _, rfl, .inl (task_compileNow host path source byRequest)⟩
      · split
        · exact ⟨_, _, rfl, .inr rfl⟩
        · exact ⟨_, _, rfl, .inl rfl⟩
    obtain ⟨next, events, hwork, hready | hjoining⟩ := hwork
    · exact .work hwork (rests_of_ready hready)
    · exact .work hwork (rests_of_joining hjoining (stopping_of_work hwork))

end Host

end PadScript
