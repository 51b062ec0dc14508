import Mathlib.Logic.ExistsUnique
import PadScript.Proofs.Host.Chronicle

/-!
# Who owns the output

The output that a host is given lies at one place at a time: with the host, with the
thread of a play, nowhere once it was closed, or lost with a thread that broke down.
A play is started only when no thread is left, so only the last play that was started
can still write, and what is written in all is what each play writes by itself, one
play after the other (`one_writer`).
-/

namespace PadScript

def Thread.output? {σ : Type} : Thread σ → Option σ
  | playing output _ | leaving output | returned output => some output
  | crashed => none

inductive Place
  | slot
  | thread
  | closed
  | lost
  deriving DecidableEq, Repr

def Host.given {σ : Type} (registry : Registry) (session : Session) (progress : Progress)
    (output : σ) : Host σ :=
  { registry, session, idleProgress := progress, output := some output }

namespace Chronicle

variable {σ : Type}

def Closed (c : Chronicle σ) : Prop := ∃ failure, .play (.closed failure) ∈ c.events

def Crashed (c : Chronicle σ) : Prop := .crash ∈ c.turns

def QuitAsked (c : Chronicle σ) : Prop := ∃ found, .request .quit found ∈ c.turns

def Lies (c : Chronicle σ) (output : σ) : Place → Prop
  | .slot => c.host.output = some output
  | .thread => ∃ thread, c.host.thread? = some thread ∧ thread.output? = some output
  | .closed => c.Closed ∧ c.QuitAsked
  | .lost => c.Crashed

/-- The output is at one place, and nothing is left of it at the others. -/
inductive Held (c : Chronicle σ) (output : σ) : Prop
  | slot (houtput : c.host.output = some output) (hthread : c.host.thread? = none)
      (hclosed : ¬ c.Closed) (hcrashed : ¬ c.Crashed)
  | thread {thread} (houtput : c.host.output = none) (hthread : c.host.thread? = some thread)
      (hhas : thread.output? = some output) (hclosed : ¬ c.Closed) (hcrashed : ¬ c.Crashed)
  | closed (houtput : c.host.output = none) (hthread : c.host.thread? = none) (hclosed : c.Closed)
      (hquit : c.QuitAsked) (hcrashed : ¬ c.Crashed)
  | lost (houtput : c.host.output = none)
      (hthread : ∀ thread, c.host.thread? = some thread → thread = .crashed)
      (hclosed : ¬ c.Closed) (hcrashed : c.Crashed)

theorem Held.existsUnique {c : Chronicle σ} {output : σ} (h : c.Held output) :
    ∃! place, c.Lies output place := by
  cases h with
  | slot houtput hthread hclosed hcrashed =>
    refine ⟨.slot, houtput, fun place hp => ?_⟩
    cases place with
    | slot => rfl
    | thread => simp [Lies, hthread] at hp
    | closed => exact absurd hp.1 hclosed
    | lost => exact absurd hp hcrashed
  | thread houtput hthread hhas hclosed hcrashed =>
    refine ⟨.thread, ⟨_, hthread, hhas⟩, fun place hp => ?_⟩
    cases place with
    | slot => simp [Lies, houtput] at hp
    | thread => rfl
    | closed => exact absurd hp.1 hclosed
    | lost => exact absurd hp hcrashed
  | closed houtput hthread hclosed hquit hcrashed =>
    refine ⟨.closed, ⟨hclosed, hquit⟩, fun place hp => ?_⟩
    cases place with
    | slot => simp [Lies, houtput] at hp
    | thread => simp [Lies, hthread] at hp
    | closed => rfl
    | lost => exact absurd hp hcrashed
  | lost houtput hthread hclosed hcrashed =>
    refine ⟨.lost, hcrashed, fun place hp => ?_⟩
    cases place with
    | slot => simp [Lies, houtput] at hp
    | thread =>
      obtain ⟨thread, ht, ho⟩ := hp
      obtain rfl := hthread thread ht
      cases ho
    | closed => exact absurd hp.1 hclosed
    | lost => rfl

def finished (c : Chronicle σ) : List Run :=
  match c.host.thread? with
  | some (.playing ..) => c.runs.dropLast
  | _ => c.runs

theorem finished_of_playing {c : Chronicle σ} {held : σ} {play : Play}
    (h : c.host.thread? = some (.playing held play)) : c.finished = c.runs.dropLast := by
  rw [finished, h]

theorem finished_of_ne {c : Chronicle σ}
    (h : ∀ held play, c.host.thread? ≠ some (.playing held play)) : c.finished = c.runs := by
  rw [finished]
  split
  · rename_i held play hp
    exact absurd hp (h held play)
  · rfl

theorem finished_prefix (c : Chronicle σ) : c.finished <+: c.runs := by
  rw [finished]
  split
  · exact List.dropLast_prefix c.runs
  · exact List.prefix_rfl

theorem finished_congr {c next : Chronicle σ} (hruns : next.runs = c.runs)
    (hthread : next.host.thread? = c.host.thread?) : next.finished = c.finished := by
  rw [finished, finished, hruns, hthread]

-- ---------------------------------------------------------------------------
-- One turn
-- ---------------------------------------------------------------------------

/-- What holds between the turns of a host. -/
structure Orderly (output : σ) (c : Chronicle σ) : Prop where
  held : c.Held output
  settled : c.host.task.isSettled → c.host.thread? = none
  closing : c.host.task.next? = some .close → c.QuitAsked
  playing : ∀ held play, c.host.thread? = some (.playing held play) →
    ∃ earlier run, c.runs = earlier ++ [run] ∧ play = run.play
  writes : c.writes = c.runs.flatMap Run.writes

section Turn

variable {c : Chronicle σ} {output : σ} {turn : Turn} {host : Host σ} {events : List HostEvent}

theorem closed_extend (hs : Silent events) : (c.extend turn host events).Closed ↔ c.Closed := by
  constructor
  · rintro ⟨failure, hf⟩
    rcases List.mem_append.1 hf with hf | hf
    · exact ⟨failure, hf⟩
    · exact absurd rfl ((hs _ hf).2 failure)
  · rintro ⟨failure, hf⟩
    exact ⟨failure, List.mem_append_left _ hf⟩

theorem closed_extend_play {play : Play} {moment : Moment}
    (h : (c.extend turn host ((play.advance moment).2.toList.map .play)).Closed) : c.Closed := by
  obtain ⟨failure, hf⟩ := h
  rcases List.mem_append.1 hf with hf | hf
  · exact ⟨failure, hf⟩
  · obtain ⟨event, he, heq⟩ := List.mem_map.1 hf
    obtain rfl := HostEvent.play.inj heq
    exact absurd (Option.mem_toList.1 he) (play.advance_ne_closed moment failure)

theorem crashed_extend (h : c.Crashed) : (c.extend turn host events).Crashed :=
  List.mem_append_left _ h

theorem not_crashed_extend (h : ¬ c.Crashed) (ht : turn ≠ .crash) :
    ¬ (c.extend turn host events).Crashed := by
  intro hx
  rcases List.mem_append.1 hx with hx | hx
  · exact h hx
  · exact ht (List.mem_singleton.1 hx).symm

theorem QuitAsked.extend (h : c.QuitAsked) : (c.extend turn host events).QuitAsked := by
  obtain ⟨found, hf⟩ := h
  exact ⟨found, List.mem_append_left _ hf⟩

theorem writes_extend (hs : ∀ event ∈ events, event.write? = none) :
    (c.extend turn host events).writes = c.writes := by
  have hnone : events.filterMap HostEvent.write? = [] := List.filterMap_eq_nil_iff.2 hs
  rw [writes, extend, List.filterMap_append, hnone, List.append_nil, writes]

theorem writes_extend_play (seen : List Event) :
    (c.extend turn host (seen.map .play)).writes = c.writes ++ seen.filter Event.isWrite := by
  have hfilter : (seen.map HostEvent.play).filterMap HostEvent.write? =
      seen.filter Event.isWrite := by
    rw [List.filterMap_map, ← List.filterMap_eq_filter]
    rfl
  rw [writes, extend, List.filterMap_append, hfilter, writes]

theorem runs_extend (he : c.host.record? turn = none) :
    (c.extend turn host events).runs = c.runs := by
  rw [extend, he, Entry.addTo]

theorem finished_extend (he : c.host.record? turn = none)
    (hthread : ∀ held play, host.thread? ≠ some (.playing held play)) :
    c.finished <+: (c.extend turn host events).finished := by
  have hfinished : (c.extend turn host events).finished = c.runs :=
    (finished_of_ne hthread).trans (runs_extend he)
  rw [hfinished]
  exact c.finished_prefix

theorem finished_extend_begun {run : Run} {held : σ} {play : Play}
    (hentry : c.host.record? turn = some (.begun run))
    (hthread : host.thread? = some (.playing held play)) :
    (c.extend turn host events).finished = c.runs := by
  rw [finished_of_playing hthread, extend, hentry, Entry.addTo, List.dropLast_concat]

theorem finished_extend_moment {earlier : List Run} {run : Run} {moment : Moment} {held : σ}
    {play : Play} (hruns : c.runs = earlier ++ [run])
    (hentry : c.host.record? turn = some (.moment moment))
    (hthread : host.thread? = some (.playing held play)) :
    (c.extend turn host events).finished = earlier := by
  rw [finished_of_playing hthread, extend, hentry, Entry.addTo, hruns, List.modifyLast_concat,
    List.dropLast_concat]

theorem Held.quiet (h : c.Held output) (hq : c.host.Quiet turn host events) :
    (c.extend turn host events).Held output := by
  have hclosed : (c.extend turn host events).Closed ↔ c.Closed := closed_extend hq.silent
  cases h with
  | slot ho ht hc hx =>
    exact .slot (hq.output.trans ho) (hq.thread.trans ht) (mt hclosed.1 hc)
      (not_crashed_extend hx hq.sound)
  | thread ho ht hh hc hx =>
    exact .thread (hq.output.trans ho) (hq.thread.trans ht) hh (mt hclosed.1 hc)
      (not_crashed_extend hx hq.sound)
  | closed ho ht hc hqa hx =>
    exact .closed (hq.output.trans ho) (hq.thread.trans ht) (hclosed.2 hc) hqa.extend
      (not_crashed_extend hx hq.sound)
  | lost ho ht hc hx =>
    refine .lost (hq.output.trans ho) (fun thread hthread => ht thread ?_) (mt hclosed.1 hc)
      (crashed_extend hx)
    exact hq.thread.symm.trans hthread

theorem Held.of_thread {thread : Thread σ} {held : σ} (h : c.Held output)
    (hthread : c.host.thread? = some thread) (hhas : thread.output? = some held) :
    held = output ∧ c.host.output = none ∧ ¬ c.Closed ∧ ¬ c.Crashed := by
  cases h with
  | slot _ ht => simp [hthread] at ht
  | thread ho ht hh hc hx =>
    obtain rfl := Option.some.inj (hthread.symm.trans ht)
    exact ⟨Option.some.inj (hhas.symm.trans hh), ho, hc, hx⟩
  | closed _ ht => simp [hthread] at ht
  | lost _ ht =>
    obtain rfl := ht _ hthread
    cases hhas

theorem Held.pass {thread next : Thread σ} {held : σ} (h : c.Held output)
    (hthread : c.host.thread? = some thread) (hhas : thread.output? = some held)
    (ho : host.output = c.host.output) (hnext : host.thread? = some next)
    (hnextHas : next.output? = some held)
    (hclosed : (c.extend turn host events).Closed → c.Closed) (ht : turn ≠ .crash) :
    (c.extend turn host events).Held output := by
  obtain ⟨rfl, hout, hc, hx⟩ := h.of_thread hthread hhas
  exact .thread (ho.trans hout) hnext hnextHas (mt hclosed hc) (not_crashed_extend hx ht)

theorem Held.of_output {held : σ} (h : c.Held output) (ho : c.host.output = some held) :
    held = output ∧ c.host.thread? = none ∧ ¬ c.Closed ∧ ¬ c.Crashed := by
  cases h with
  | slot ho' ht hc hx => exact ⟨Option.some.inj (ho.symm.trans ho'), ht, hc, hx⟩
  | thread ho' => simp [ho] at ho'
  | closed ho' => simp [ho] at ho'
  | lost ho' => simp [ho] at ho'

theorem Orderly.unsettled {thread : Thread σ} (h : c.Orderly output)
    (hthread : c.host.thread? = some thread) : ¬ c.host.task.isSettled := by
  intro hs
  cases (h.settled hs).symm.trans hthread

theorem Orderly.quiet (h : c.Orderly output) (hq : c.host.Quiet turn host events) :
    (c.extend turn host events).Orderly output where
  held := h.held.quiet hq
  settled hs := hq.thread.trans ((hq.settled hs).elim h.settled id)
  closing hn := by
    rcases hq.closing hn with hn | ⟨found, rfl⟩
    · exact (h.closing hn).extend
    · exact ⟨found, List.mem_append_right _ (List.mem_singleton_self _)⟩
  playing held play hp := by
    rw [runs_extend hq.entry]
    exact h.playing held play (hq.thread.symm.trans hp)
  writes := by
    rw [writes_extend fun event he => (hq.silent event he).1, runs_extend hq.entry, h.writes]

theorem Orderly.thread (h : c.Orderly output) (hheld : (c.extend turn host events).Held output)
    (hsettled : host.task.isSettled → host.thread? = none)
    (hclosing : host.task.next? = some .close → c.host.task.next? = some .close)
    (hplaying : ∀ held play, host.thread? ≠ some (.playing held play))
    (hentry : c.host.record? turn = none) (hs : ∀ event ∈ events, event.write? = none) :
    (c.extend turn host events).Orderly output where
  held := hheld
  settled := hsettled
  closing hn := (h.closing (hclosing hn)).extend
  playing held play hp := absurd hp (hplaying held play)
  writes := by rw [writes_extend hs, runs_extend hentry, h.writes]

theorem Orderly.launch {held : σ} {run : Run} (h : c.Orderly output)
    (houtput : c.host.output = some held) (hentry : c.host.record? turn = some (.begun run))
    (hfresh : run.moments = []) (htask : host.task = .ready) (houtput' : host.output = none)
    (hthread : host.thread? = some (.playing held run.first)) (hs : Silent events)
    (ht : turn ≠ .crash) : (c.extend turn host events).Orderly output := by
  obtain ⟨rfl, -, hc, hx⟩ := h.held.of_output houtput
  obtain ⟨script, goal, progress, moments⟩ := run
  obtain rfl : moments = [] := hfresh
  have hruns : (c.extend turn host events).runs = c.runs ++ [⟨script, goal, progress, []⟩] := by
    rw [extend, hentry, Entry.addTo]
  refine ⟨?_, by simp [htask, Task.isSettled], by simp [htask, Task.next?], ?_, ?_⟩
  · exact .thread houtput' hthread rfl (mt (closed_extend hs).1 hc) (not_crashed_extend hx ht)
  · intro held play hp
    refine ⟨c.runs, _, hruns, ?_⟩
    cases Option.some.inj (hthread.symm.trans hp)
    rfl
  · -- A play that has had no moment has written nothing.
    have hnone : Run.writes ⟨script, goal, progress, []⟩ = [] := rfl
    rw [writes_extend fun event he => (hs event he).1, hruns, List.flatMap_append,
      List.flatMap_singleton, hnone, List.append_nil, h.writes]

theorem Orderly.play {held : σ} {play : Play} {moment : Moment} (h : c.Orderly output)
    (hthread : c.host.thread? = some (.playing held play))
    (hentry : c.host.record? turn = some (.moment moment)) (htask : host.task = c.host.task)
    (houtput : host.output = c.host.output)
    (hthread' : host.thread? = some (.playing held (play.advance moment).1)) (ht : turn ≠ .crash) :
    (c.extend turn host ((play.advance moment).2.toList.map .play)).Orderly output := by
  obtain ⟨earlier, run, hruns, rfl⟩ := h.playing held play hthread
  have hlast : (c.extend turn host ((run.play.advance moment).2.toList.map .play)).runs =
      earlier ++ [run.add moment] := by
    rw [extend, hentry, Entry.addTo, hruns, List.modifyLast_concat]
  refine ⟨h.held.pass hthread rfl houtput hthread' rfl closed_extend_play ht, ?_, ?_, ?_, ?_⟩
  · exact fun hs => absurd (htask ▸ hs) (h.unsettled hthread)
  · exact fun hn => (h.closing (htask ▸ hn)).extend
  · intro _ _ hp
    refine ⟨earlier, run.add moment, hlast, ?_⟩
    cases Option.some.inj (hthread'.symm.trans hp)
    exact (run.play_add moment).symm
  · calc (c.extend turn host _).writes
        = (earlier ++ [run]).flatMap Run.writes ++
            (run.play.advance moment).2.toList.filter Event.isWrite := by
          rw [writes_extend_play, h.writes, hruns]
      _ = earlier.flatMap Run.writes ++ (run.add moment).writes := by
          rw [List.flatMap_append, List.flatMap_singleton, List.append_assoc, run.writes_add]
      _ = _ := by rw [hlast, List.flatMap_append, List.flatMap_singleton]

end Turn

section Step

variable {c next : Chronicle σ} {output : σ} {turn : Turn}

theorem Orderly.step (h : c.Orderly output) (hstep : c.step turn = some next) :
    next.Orderly output := by
  obtain ⟨host, events, hturn, rfl⟩ := step_eq_some_iff.1 hstep
  cases Host.does_of_step hturn with
  | quiet hq => exact h.quiet hq
  | launch htask houtput hentry htask' houtput' hthread hsilent =>
    exact h.launch houtput hentry rfl htask' houtput' hthread hsilent (by simp)
  | collect htask hthread hentry htask' houtput' hthread' hsilent =>
    obtain ⟨rfl, -, hc, hx⟩ := h.held.of_thread hthread rfl
    refine h.thread ?_ (fun _ => hthread') ?_ (by simp [hthread']) hentry
      fun event he => (hsilent event he).1
    · exact .slot houtput' hthread' (mt (closed_extend hsilent).1 hc)
        (not_crashed_extend hx (by simp))
    · simp [htask, htask', Task.next?]
  | bury htask hthread hentry htask' houtput' hthread' hsilent =>
    refine h.thread ?_ (fun _ => hthread') ?_ (by simp [hthread']) hentry
      fun event he => (hsilent event he).1
    -- Of all that can be known of the output, only its loss fits a thread that broke down.
    · cases h.held with
      | slot _ ht => simp [hthread] at ht
      | thread _ ht hh =>
        obtain rfl := Option.some.inj (hthread.symm.trans ht)
        cases hh
      | closed _ ht => simp [hthread] at ht
      | lost ho _ hc hx =>
        exact .lost (houtput'.trans ho) (by simp [hthread']) (mt (closed_extend hsilent).1 hc)
          (crashed_extend hx)
    · simp [htask, htask', Task.next?]
  | close htask houtput hentry htask' houtput' hthread' hsilent =>
    obtain ⟨rfl, ht, -, hx⟩ := h.held.of_output houtput
    refine h.thread ?_ (by simp [htask', Task.isSettled]) (by simp [htask', Task.next?])
      (by simp [hthread', ht]) hentry ?_
    · have hquit : c.QuitAsked := h.closing (by simp [htask, Task.next?])
      refine .closed houtput' (hthread'.trans ht) ?_ hquit.extend
        (not_crashed_extend hx (by simp))
      exact ⟨_, List.mem_append_right _ List.mem_cons_self⟩
    · exact List.forall_mem_cons.2 ⟨rfl, fun event he => (hsilent event he).1⟩
  | play hthread hresult hentry htask' houtput' hthread' =>
    exact h.play hthread hentry htask' houtput' hthread' (by simp)
  | report hthread hentry htask' houtput' hthread' hsilent =>
    refine h.thread ?_ ?_ (by simp [htask']) (by simp [hthread']) hentry
      fun event he => (hsilent event he).1
    · exact h.held.pass hthread rfl houtput' hthread' rfl (closed_extend hsilent).1 (by simp)
    · exact fun hs => absurd (htask' ▸ hs) (h.unsettled hthread)
  | leave hthread hentry htask' houtput' hthread' =>
    refine h.thread ?_ ?_ (by simp [htask']) (by simp [hthread']) hentry (by simp)
    · exact h.held.pass hthread rfl houtput' hthread' rfl (closed_extend Host.silent_nil).1
        (by simp)
    · exact fun hs => absurd (htask' ▸ hs) (h.unsettled hthread)
  | crash hthread htask' houtput' hthread' =>
    obtain ⟨-, ho, hc, -⟩ := h.held.of_thread hthread rfl
    refine h.thread ?_ ?_ (by simp [htask']) (by simp [hthread']) rfl (by simp)
    · refine .lost (houtput'.trans ho) (by simp [hthread'])
        (mt (closed_extend Host.silent_nil).1 hc) ?_
      exact List.mem_append_right _ (List.mem_singleton_self _)
    · exact fun hs => absurd (htask' ▸ hs) (h.unsettled hthread)

/-- What a run has done stays as it is once it is over. -/
theorem Orderly.finished_step (h : c.Orderly output) (hstep : c.step turn = some next) :
    c.finished <+: next.finished := by
  obtain ⟨host, events, hturn, rfl⟩ := step_eq_some_iff.1 hstep
  cases Host.does_of_step hturn with
  | quiet hq =>
    exact finished_congr (runs_extend hq.entry) hq.thread ▸ List.prefix_rfl
  | launch htask houtput hentry htask' houtput' hthread hsilent =>
    obtain ⟨-, ht, -⟩ := h.held.of_output houtput
    -- Only the new run is not finished, and no thread was left that could play another.
    have hbefore : c.finished = c.runs := finished_of_ne (by simp [ht])
    exact hbefore.trans (finished_extend_begun hentry hthread).symm ▸ List.prefix_rfl
  | close htask houtput hentry htask' houtput' hthread' hsilent =>
    exact finished_congr (runs_extend hentry) hthread' ▸ List.prefix_rfl
  | play hthread hresult hentry htask' houtput' hthread' =>
    obtain ⟨earlier, run, hruns, -⟩ := h.playing _ _ hthread
    -- The moment goes to the last run, which is not finished either way.
    have hbefore : c.finished = earlier := by
      rw [finished_of_playing hthread, hruns, List.dropLast_concat]
    exact hbefore.trans (finished_extend_moment hruns hentry hthread').symm ▸ List.prefix_rfl
  | collect _ _ hentry _ _ hthread' =>
    exact finished_extend hentry (by simp [hthread'])
  | bury _ _ hentry _ _ hthread' =>
    exact finished_extend hentry (by simp [hthread'])
  | report _ hentry _ _ hthread' =>
    exact finished_extend hentry (by simp [hthread'])
  | leave _ hentry _ _ hthread' =>
    exact finished_extend hentry (by simp [hthread'])
  | crash _ _ _ hthread' =>
    exact finished_extend rfl (by simp [hthread'])

end Step

-- ---------------------------------------------------------------------------
-- All turns
-- ---------------------------------------------------------------------------

section Turns

variable {c later : Chronicle σ} {output : σ} {turns : List Turn}

theorem Orderly.after (h : c.Orderly output) (hafter : c.after turns = some later) :
    later.Orderly output := by
  induction turns generalizing c with
  | nil =>
    obtain rfl := Option.some.inj hafter
    exact h
  | cons turn rest ih =>
    obtain ⟨next, hnext, hrest⟩ := Option.bind_eq_some_iff.1 hafter
    exact ih (h.step hnext) hrest

theorem Orderly.finished_after (h : c.Orderly output) (hafter : c.after turns = some later) :
    c.finished <+: later.finished := by
  induction turns generalizing c with
  | nil =>
    obtain rfl := Option.some.inj hafter
    exact List.prefix_rfl
  | cons turn rest ih =>
    obtain ⟨next, hnext, hrest⟩ := Option.bind_eq_some_iff.1 hafter
    exact (h.finished_step hnext).trans (ih (h.step hnext) hrest)

theorem Orderly.goes_on (h : c.Orderly output) (hafter : c.after turns = some later) {n : Nat}
    (hn : n < c.runs.length) (hne : later.runs[n]? ≠ c.runs[n]?) :
    n + 1 = c.runs.length ∧ ∃ play, c.host.thread? = some (.playing output play) := by
  by_cases hfinished : n < c.finished.length
  · -- What is finished is the same in both.
    have hlater : c.finished <+: later.runs := (h.finished_after hafter).trans later.finished_prefix
    exact absurd ((List.prefix_iff_getElem?.1 hlater n hfinished).trans
      (List.prefix_iff_getElem?.1 c.finished_prefix n hfinished).symm) hne
  · cases hthread : c.host.thread? with
    | none =>
      rw [finished_of_ne (by simp [hthread])] at hfinished
      exact absurd hn hfinished
    | some thread =>
      cases thread with
      | playing held play =>
        obtain ⟨rfl, -⟩ := h.held.of_thread hthread rfl
        rw [finished_of_playing hthread, List.length_dropLast] at hfinished
        exact ⟨by omega, play, rfl⟩
      | _ =>
        rw [finished_of_ne (by simp [hthread])] at hfinished
        exact absurd hn hfinished

theorem Orderly.started {turn : Turn} {run : Run} {next : Chronicle σ} (h : c.Orderly output)
    (hentry : c.host.record? turn = some (.begun run)) (hstep : c.step turn = some next)
    (hafter : next.after turns = some later) :
    later.writes = c.writes ++ (later.runs.drop c.runs.length).flatMap Run.writes := by
  have hthread : c.host.thread? = none := h.settled (Host.settled_of_begun hentry).1
  have hfinished : c.finished = c.runs := finished_of_ne (by simp [hthread])
  have hnext : c.finished <+: next.finished := h.finished_step hstep
  have hlater : next.finished <+: later.finished := (h.step hstep).finished_after hafter
  obtain ⟨more, hmore⟩ := hfinished ▸ (hnext.trans hlater).trans later.finished_prefix
  calc later.writes
      = later.runs.flatMap Run.writes := ((h.step hstep).after hafter).writes
    _ = c.writes ++ more.flatMap Run.writes := by
        rw [← hmore, List.flatMap_append, h.writes]
    _ = _ := by rw [← hmore, List.drop_left]

end Turns

/-- One output, and one play at a time that may write to it. -/
structure Exclusive (c : Chronicle σ) (output : σ) : Prop where
  place : ∃! place, c.Lies output place
  /-- A thread that may still write has the output, and plays the last run. -/
  writer : ∀ held play, c.host.thread? = some (.playing held play) →
    held = output ∧ ∃ earlier run, c.runs = earlier ++ [run] ∧ play = run.play
  writes : c.writes = c.runs.flatMap Run.writes
  last : ∀ turns later n, c.after turns = some later → n < c.runs.length →
    later.runs[n]? ≠ c.runs[n]? →
      n + 1 = c.runs.length ∧ ∃ play, c.host.thread? = some (.playing output play)
  /-- A run is started when no thread is left. From then on only this run and later
  ones write. -/
  started : ∀ turn run next, c.host.record? turn = some (.begun run) → c.step turn = some next →
    c.host.thread? = none ∧ c.host.output = some output ∧ next.runs = c.runs ++ [run] ∧
      ∀ turns later, next.after turns = some later →
        later.writes = c.writes ++ (later.runs.drop c.runs.length).flatMap Run.writes

theorem Orderly.exclusive {c : Chronicle σ} {output : σ} (h : c.Orderly output) :
    c.Exclusive output where
  place := h.held.existsUnique
  writer held play hthread :=
    ⟨(h.held.of_thread hthread rfl).1, h.playing held play hthread⟩
  writes := h.writes
  last _ _ _ hafter hn hne := h.goes_on hafter hn hne
  started turn run next hentry hstep := by
    obtain ⟨hsettled, held, houtput⟩ := Host.settled_of_begun hentry
    obtain ⟨host, events, -, rfl⟩ := step_eq_some_iff.1 hstep
    obtain ⟨rfl, hthread, -⟩ := h.held.of_output houtput
    refine ⟨hthread, houtput, ?_, fun _ _ hafter => h.started hentry hstep hafter⟩
    rw [extend, hentry, Entry.addTo]

theorem orderly_ofHost (registry : Registry) (session : Session) (progress : Progress)
    (output : σ) : (ofHost (Host.given registry session progress output)).Orderly output where
  held := .slot rfl rfl (by simp [Closed, ofHost]) (by simp [Crashed, ofHost])
  settled := by simp [ofHost, Host.given, Task.isSettled]
  closing := by simp [ofHost, Host.given, Task.next?]
  playing := by simp [ofHost, Host.given, Host.thread?]
  writes := rfl

end Chronicle

/-- In every run of a host, its output is at one place, and only one play at a time writes. -/
theorem one_writer (registry : Registry) (session : Session) (progress : Progress) (output : σ)
    {turns : List Turn} {host : Host σ} {events : List HostEvent}
    (h : (Host.given registry session progress output).run turns = some (host, events)) :
    ∃ c, (Chronicle.ofHost (Host.given registry session progress output)).after turns = some c ∧
      c.host = host ∧ c.events = events ∧ c.Exclusive output := by
  change (Chronicle.ofHost (Host.given registry session progress output)).host.run turns = _ at h
  obtain ⟨c, hafter, hhost, hevents⟩ := Chronicle.after_of_run h
  refine ⟨c, hafter, hhost, hevents, ?_⟩
  exact ((Chronicle.orderly_ofHost registry session progress output).after hafter).exclusive

/-- A play is asked for while another is under way, and is cut short in its turn. -/
def replaced : List Turn :=
  List.flatten [[.compile none "Press A", .host none, .request .runOnce (.ok ""), .host none],
    .replicate 3 (.thread 10 none), [.request .runOnce (.ok "")], .replicate 3 (.host none),
    .replicate 8 (.thread 20 none), .replicate 3 (.host none), .replicate 3 (.thread 30 none),
    [.request .quit (.ok "")], .replicate 3 (.host none), .replicate 8 (.thread 40 none),
    .replicate 3 (.host none)]

theorem one_writer_replaced :
    ∃ host events, (Host.given .builtin {} {} ()).run replaced = some (host, events) ∧
      events.filterMap HostEvent.write? = [.wrote Buttons.a.frame, .wrote Buttons.released.frame,
        .wrote Buttons.a.frame, .wrote Buttons.released.frame] ∧
      ∃ c, (Chronicle.ofHost (Host.given .builtin {} {} ())).after replaced = some c ∧
        c.host = host ∧ c.events = events ∧ c.Exclusive () := by
  have hwrites : ((Host.given .builtin {} {} ()).run replaced).map
      (·.2.filterMap HostEvent.write?) = some [.wrote Buttons.a.frame,
        .wrote Buttons.released.frame, .wrote Buttons.a.frame, .wrote Buttons.released.frame] := by
    decide +kernel
  obtain ⟨⟨host, events⟩, hrun, hw⟩ := Option.map_eq_some_iff.1 hwrites
  exact ⟨host, events, hrun, hw, one_writer .builtin {} {} () hrun⟩

end PadScript
