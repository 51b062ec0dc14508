import Mathlib.Algebra.Group.Nat.Defs
import PadScript.Proofs.Host.Ownership
import PadScript.Proofs.Play.Published
import PadScript.Proofs.Script.Numbering

/-!
# The session and the play agree

Source and script of a session are only ever changed together, and only while no
thread is there (`text_of_step`). So the script is what the source reads as, a thread
plays the script of the session, and what an observer puts together from the session
and the published progress belongs to one script (`session_agrees`).
-/

namespace PadScript

namespace Host

variable {σ : Type}

structure SameText (host next : Host σ) : Prop where
  registry : next.registry = host.registry
  source : next.session.source = host.session.source
  script : next.session.script = host.session.script

/-- A source was compiled into the session while no thread was there. -/
structure Compiles (host next : Host σ) : Prop where
  registry : next.registry = host.registry
  session : ∃ path source, next.session = (host.session.compile host.registry path source).1
  thread : host.thread? = none
  thread' : next.thread? = none

theorem compileNow_compiles {host next : Host σ} {path : Option String} {source : String}
    {byRequest : Bool} {events : List HostEvent} (hthread : host.thread? = none)
    (h : host.compileNow path source byRequest = (next, events)) : host.Compiles next := by
  unfold compileNow at h
  rcases hcompile : host.session.compile host.registry path source with ⟨session, error | count⟩
  · simp only [hcompile] at h
    cases h
    exact ⟨rfl, ⟨path, source, by rw [hcompile]⟩, hthread, hthread⟩
  · simp only [hcompile] at h
    cases h
    exact ⟨rfl, ⟨path, source, by rw [hcompile]⟩, hthread, hthread⟩

theorem sameText_stopThen (host : Host σ) (next : Afterwards) :
    host.SameText (host.stopThen next) := by
  unfold stopThen
  split <;> exact ⟨rfl, rfl, rfl⟩

theorem sameText_beginRequest (host : Host σ) (request : Request) (found : Except Fault String) :
    host.SameText (host.beginRequest request found).1 := by
  cases request with
  | compile path => cases found <;> exact ⟨rfl, rfl, rfl⟩
  | _ => exact sameText_stopThen host _

theorem sameText_launch (host : Host σ) (passes : Option Int32) :
    host.SameText (host.launch passes).1 := by
  unfold launch
  cases hscript : host.session.script with
  | none =>
    simp only [hscript]
    exact ⟨rfl, rfl, rfl⟩
  | some script =>
    simp only [hscript]
    cases host.output <;> exact ⟨rfl, rfl, rfl⟩

theorem sameText_close (host : Host σ) (failure : Option Report) :
    host.SameText (host.close failure).1 := by
  unfold close
  cases host.output <;> exact ⟨rfl, rfl, rfl⟩

theorem text_of_work {host next : Host σ} {closeFailure : Option Report} {events : List HostEvent}
    (hsettled : host.task.isSettled → host.thread? = none)
    (h : host.work closeFailure = some (next, events)) :
    host.SameText next ∨ host.Compiles next := by
  cases htask : host.task with
  | ready => simp [work, htask] at h
  | compiling path source byRequest =>
    simp only [work, htask] at h
    split at h
    · rename_i hactive
      exact .inr (compileNow_compiles (by simp [thread?, hactive]) (Option.some.inj h))
    · split at h <;> cases h <;> exact .inl ⟨rfl, rfl, rfl⟩
  | joining after =>
    simp only [work, htask] at h
    split at h
    · cases h
      exact .inl ⟨rfl, rfl, rfl⟩
    · split at h <;> cases h <;> exact .inl ⟨rfl, rfl, rfl⟩
  | free after =>
    have hthread : host.thread? = none := hsettled (by rw [htask, Task.isSettled])
    simp only [work, htask] at h
    cases after with
    | nothing =>
      cases h
      exact .inl ⟨rfl, rfl, rfl⟩
    | launch passes =>
      have hsame := host.sameText_launch passes
      rw [Option.some.inj h] at hsame
      exact .inl hsame
    | close =>
      have hsame := host.sameText_close closeFailure
      rw [Option.some.inj h] at hsame
      exact .inl hsame
    | compile path source byRequest =>
      exact .inr (compileNow_compiles hthread (Option.some.inj h))
  | _ =>
    simp only [work, htask] at h
    cases h
    exact .inl ⟨rfl, rfl, rfl⟩

theorem sameText_threadStep {host next : Host σ} {now : Time} {refusal : Option Fault}
    {events : List HostEvent} (h : host.threadStep now refusal = some (next, events)) :
    host.SameText next := by
  obtain ⟨active, -, h⟩ := Option.bind_eq_some_iff.1 h
  obtain ⟨stopRequested, thread⟩ := active
  cases thread with
  | playing output play =>
    cases hresult : play.result? with
    | some result =>
      simp only [hresult] at h
      cases h
      rcases result with fault | _ | _ <;> exact ⟨rfl, rfl, rfl⟩
    | none =>
      simp only [hresult] at h
      cases h
      exact ⟨rfl, rfl, rfl⟩
  | leaving output =>
    cases h
    exact ⟨rfl, rfl, rfl⟩
  | _ => cases h

theorem text_of_step {host next : Host σ} {turn : Turn} {events : List HostEvent}
    (hsettled : host.task.isSettled → host.thread? = none)
    (h : host.step turn = some (next, events)) : host.SameText next ∨ host.Compiles next := by
  cases turn with
  | request request found =>
    simp only [step] at h
    split at h
    · have hsame := host.sameText_beginRequest request found
      rw [Option.some.inj h] at hsame
      exact .inl hsame
    · cases h
  | compile path source =>
    simp only [step] at h
    split at h <;> cases h
    exact .inl ⟨rfl, rfl, rfl⟩
  | collect =>
    simp only [step] at h
    split at h
    · split at h <;> cases h <;> exact .inl ⟨rfl, rfl, rfl⟩
    · cases h
  | host closeFailure => exact text_of_work hsettled h
  | thread now refusal => exact .inl (sameText_threadStep h)
  | crash =>
    obtain ⟨later, hcrash, he⟩ := Option.map_eq_some_iff.1 h
    cases he
    obtain ⟨active, -, hcrash⟩ := Option.bind_eq_some_iff.1 hcrash
    split at hcrash
    · split at hcrash <;> cases hcrash
      exact .inl ⟨rfl, rfl, rfl⟩
    · cases hcrash
  | stop =>
    obtain ⟨active, -, he⟩ := Option.bind_eq_some_iff.1 h
    cases he
    exact .inl ⟨rfl, rfl, rfl⟩

end Host

namespace Chronicle

variable {σ : Type}

/-- The script is that of the source, and a thread plays it and publishes where it is. -/
structure Agrees (registry : Registry) (c : Chronicle σ) : Prop where
  registry_eq : c.host.registry = registry
  compiled : ∀ script, c.host.session.script = some script →
    Script.ofLines registry c.host.session.source = .ok script
  playing : ∀ held play, c.host.thread? = some (.playing held play) →
    c.host.session.script = some play.script ∧ play.Published

section Turn

variable {registry : Registry} {c : Chronicle σ} {turn : Turn} {host : Host σ}
  {events : List HostEvent}

theorem Agrees.sameText (h : c.Agrees registry) (hsame : c.host.SameText host)
    (hplaying : ∀ held play, host.thread? = some (.playing held play) →
      c.host.session.script = some play.script ∧ play.Published) :
    (c.extend turn host events).Agrees registry where
  registry_eq := hsame.registry.trans h.registry_eq
  compiled script hscript := by
    rw [extend_host, hsame.script] at hscript
    rw [extend_host, hsame.source]
    exact h.compiled script hscript
  playing held play hthread := by
    rw [extend_host, hsame.script]
    exact hplaying held play hthread

theorem Agrees.compiles (h : c.Agrees registry) (hcompiles : c.host.Compiles host) :
    (c.extend turn host events).Agrees registry where
  registry_eq := hcompiles.registry.trans h.registry_eq
  compiled script hscript := by
    obtain ⟨path, source, hsession⟩ := hcompiles.session
    rw [extend_host, hsession, h.registry_eq] at hscript ⊢
    unfold Session.compile at hscript ⊢
    -- Whether the source reads as a script decides what the session has afterwards.
    cases hread : Script.ofLines registry (linesOf source) with
    | error error => simp [hread] at hscript
    | ok read =>
      simp only [hread, Option.some.injEq] at hscript ⊢
      rw [hscript]
  playing held play hthread := by
    cases hcompiles.thread'.symm.trans hthread

theorem Agrees.step {output : σ} {next : Chronicle σ} (ho : c.Orderly output)
    (h : c.Agrees registry) (hstep : c.step turn = some next) : next.Agrees registry := by
  obtain ⟨host, events, hturn, rfl⟩ := step_eq_some_iff.1 hstep
  rcases Host.text_of_step ho.settled hturn with hsame | hcompiles
  · refine h.sameText hsame fun held play hthread => ?_
    cases Host.does_of_step hturn with
    | quiet hq => exact h.playing held play (hq.thread.symm.trans hthread)
    | @launch _ passes script _ _ _ htask houtput hentry _ _ hthread' =>
      cases hthread'.symm.trans hthread
      refine ⟨?_, Play.published_after script (Host.goalOf passes) c.host.idleProgress
        (fun _ => ⟨⟨0, false⟩, none⟩) 0⟩
      cases hscript : c.host.session.script with
      | none => simp [Host.record?, htask, hscript] at hentry
      | some other =>
        simp only [Host.record?, htask, hscript, houtput, Option.some.injEq, Entry.begun.injEq,
          Run.mk.injEq] at hentry
        rw [hentry.1]
        rfl
    | @play _ _ moment _ _ _ hbefore _ _ _ _ hthread' =>
      obtain ⟨hscript, hpublished⟩ := h.playing _ _ hbefore
      cases hthread'.symm.trans hthread
      exact ⟨by rw [hscript, (Play.advance_same _ moment).1], hpublished.advance moment⟩
    | close _ _ _ _ _ hthread' => exact h.playing held play (hthread'.symm.trans hthread)
    | collect _ _ _ _ _ hthread' => cases hthread'.symm.trans hthread
    | bury _ _ _ _ _ hthread' => cases hthread'.symm.trans hthread
    | report _ _ _ _ hthread' => cases hthread'.symm.trans hthread
    | leave _ _ _ _ hthread' => cases hthread'.symm.trans hthread
    | crash _ _ _ hthread' => cases hthread'.symm.trans hthread
  · exact h.compiles hcompiles

theorem Agrees.after {output : σ} {later : Chronicle σ} {turns : List Turn}
    (ho : c.Orderly output) (h : c.Agrees registry) (hafter : c.after turns = some later) :
    later.Agrees registry := by
  induction turns generalizing c with
  | nil =>
    obtain rfl := Option.some.inj hafter
    exact h
  | cons turn rest ih =>
    obtain ⟨next, hnext, hrest⟩ := Option.bind_eq_some_iff.1 hafter
    exact ih (ho.step hnext) (h.step ho hnext) hrest

end Turn

theorem agrees_ofHost (registry : Registry) (path : Option String) (progress : Progress)
    (output : σ) :
    (ofHost (Host.given registry { path } progress output)).Agrees registry where
  registry_eq := rfl
  compiled := by simp [ofHost, Host.given]
  playing := by simp [ofHost, Host.given, Host.thread?]

end Chronicle

/-- The published line is that of the step under way, in the source that the session shows. -/
structure Host.Shows {σ : Type} (host : Host σ) (play : Play) (step : Step) : Prop where
  current : play.current? = some step
  line : host.progress.line.toInt = step.line
  read : ∃ text tokens, host.session.source[step.line]? = some text ∧
    tokenize text = some tokens ∧ host.registry.Reads tokens step.command
  rest : ∀ routine, play.phase.Performs routine → step.command.routine.Leaves routine

theorem Chronicle.Agrees.shows {σ : Type} {registry : Registry} {c : Chronicle σ}
    (h : c.Agrees registry) {held : σ} {play : Play}
    (hthread : c.host.thread? = some (.playing held play))
    (hlines : c.host.session.source.length < 2 ^ 31) :
    play.phase.step? = none ∧ c.host.progress.line = Progress.idleIndex ∨
      ∃ step, c.host.Shows play step := by
  obtain ⟨hscript, hpublished⟩ := h.playing held play hthread
  have hprogress : c.host.progress = play.progress := by
    obtain ⟨⟨stopRequested, thread⟩, hactive, rfl⟩ := Option.map_eq_some_iff.1 hthread
    rw [Host.progress, hactive]
  cases hcurrent : play.current? with
  | none =>
    have hnone : play.phase.step? = none := by
      simpa [hcurrent] using mt hpublished.known
    exact .inl ⟨hnone, by rw [hprogress, hpublished.line, hcurrent]; rfl⟩
  | some step =>
    obtain ⟨index, -, hstep⟩ := Option.bind_eq_some_iff.1 hcurrent
    obtain ⟨text, tokens, htext, ht, hreads⟩ :=
      line_of_mem_steps (h.compiled play.script hscript) (Array.mem_of_getElem? hstep)
    have hlt : step.line < c.host.session.source.length := (List.getElem?_eq_some_iff.1 htext).1
    refine .inr ⟨step, hcurrent, ?_, ⟨text, tokens, htext, ht, h.registry_eq ▸ hreads⟩,
      hpublished.rest step hcurrent⟩
    rw [hprogress, hpublished.line, hcurrent]
    exact Int32.toInt_ofNat_of_lt (hlt.trans hlines)

/-- Whatever a host is asked and however its thread goes on, the script of its session is what
the source of the session reads as; a thread plays that script, whose plan is the one that an
observer finds, and the line that the observer finds published is the line of the command that
is performed. -/
theorem session_agrees {σ : Type} (registry : Registry) (path : Option String)
    (progress : Progress) (output : σ) {turns : List Turn} {host : Host σ}
    {events : List HostEvent}
    (h : (Host.given registry { path } progress output).run turns = some (host, events)) :
    (∀ script, host.session.script = some script →
      Script.ofLines registry host.session.source = .ok script) ∧
    ∀ held play, host.thread? = some (.playing held play) →
      host.session.script = some play.script ∧
      (host.session.script.map (·.plan)).getD #[] = play.script.plan ∧
      (host.session.source.length < 2 ^ 31 →
        play.phase.step? = none ∧ host.progress.line = Progress.idleIndex ∨
          ∃ step, host.Shows play step) := by
  change (Chronicle.ofHost (Host.given registry { path } progress output)).host.run turns = _ at h
  obtain ⟨c, hafter, rfl, -⟩ := Chronicle.after_of_run h
  have hagrees : c.Agrees registry :=
    (Chronicle.agrees_ofHost registry path progress output).after
      (Chronicle.orderly_ofHost registry { path } progress output) hafter
  refine ⟨hagrees.compiled, fun held play hthread => ?_⟩
  obtain ⟨hscript, -⟩ := hagrees.playing held play hthread
  exact ⟨hscript, by rw [hscript]; rfl, hagrees.shows hthread⟩

def Thread.play? {σ : Type} : Thread σ → Option Play
  | playing _ play => some play
  | leaving _ | returned _ | crashed => none

theorem Thread.eq_playing_of_play? {σ : Type} {thread : Thread σ} {play : Play}
    (h : thread.play? = some play) : ∃ output, thread = .playing output play := by
  cases thread with
  | playing output _ =>
    cases h
    exact ⟨output, rfl⟩
  | _ => cases h

/-- A play waits for its hit; meanwhile a source is refused and a file cannot be read. -/
def refusedMeanwhile : List Turn :=
  List.flatten [[.compile none "# intro\nStart -s=0\n\nHit A 1", .host none,
    .request .runOnce (.ok ""), .host none], .replicate 6 (.thread 10 none),
    [.compile none "Wait 5", .host none, .request (.compile "gone") (.error .notFound)]]

theorem session_agrees_refused :
    ∃ host events, (Host.given .builtin {} {} ()).run refusedMeanwhile = some (host, events) ∧
      host.session.error = some "cannot read gone: No such file or directory (os error 2)" ∧
      host.progress.line = 3 ∧ host.session.source[3]? = some "Hit A 1" ∧
      ∃ play step, host.thread? = some (.playing () play) ∧
        host.session.script = some play.script ∧ host.Shows play step := by
  have hseen : ((Host.given .builtin {} {} ()).run refusedMeanwhile).map (fun seen =>
      (seen.1.session.error, seen.1.progress.line, seen.1.session.source,
        (seen.1.thread?.bind Thread.play?).bind (·.phase.step?))) =
      some (some "cannot read gone: No such file or directory (os error 2)", 3,
        ["# intro", "Start -s=0", "", "Hit A 1"], some 1) := by decide +kernel
  obtain ⟨⟨host, events⟩, hrun, hs⟩ := Option.map_eq_some_iff.1 hseen
  simp only [Prod.mk.injEq] at hs
  obtain ⟨herror, hline, hsource, hstep⟩ := hs
  obtain ⟨play, hplay, hstep⟩ := Option.bind_eq_some_iff.1 hstep
  obtain ⟨thread, hthread, hplay⟩ := Option.bind_eq_some_iff.1 hplay
  obtain ⟨output, rfl⟩ := Thread.eq_playing_of_play? hplay
  obtain ⟨hscript, -, hshows⟩ := (session_agrees .builtin none {} () hrun).2 () play hthread
  refine ⟨host, events, hrun, herror, hline, by rw [hsource]; rfl, play, ?_⟩
  rcases hshows (by rw [hsource]; decide) with ⟨hnone, -⟩ | ⟨step, hshows⟩
  · cases hstep.symm.trans hnone
  · exact ⟨step, hthread, hscript, hshows⟩

end PadScript
