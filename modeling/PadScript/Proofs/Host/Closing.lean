import PadScript.Proofs.Host.Ownership

/-!
# The output is closed once

Whoever asks a host to quit makes it wait for the last play and then close its output,
unless that was lost. From then on there is no output left to write to or to close
(`Host.Gone`), whatever else is asked of the host.
-/

namespace PadScript

namespace Host

variable {σ : Type} {host next : Host σ} {turn : Turn} {events : List HostEvent}

structure Gone (host : Host σ) : Prop where
  output : host.output = none
  thread : host.thread? = none

theorem Gone.active (h : host.Gone) : host.active = none := Option.map_eq_none_iff.1 h.thread

/-- Without an output nothing is written or closed, and no play is started. -/
theorem Gone.does (h : host.Gone) (hd : host.Does turn next events) :
    next.Gone ∧ Silent events := by
  cases hd with
  | quiet hq => exact ⟨⟨hq.output.trans h.output, hq.thread.trans h.thread⟩, hq.silent⟩
  | launch _ houtput => cases houtput.symm.trans h.output
  | close _ houtput => cases houtput.symm.trans h.output
  | collect _ hthread => cases hthread.symm.trans h.thread
  | bury _ hthread => cases hthread.symm.trans h.thread
  | play hthread => cases hthread.symm.trans h.thread
  | report hthread => cases hthread.symm.trans h.thread
  | leave hthread => cases hthread.symm.trans h.thread
  | crash hthread => cases hthread.symm.trans h.thread

theorem gone_of_close {closeFailure : Option Report} (hthread : host.thread? = none) :
    (host.close closeFailure).1.Gone := by
  cases houtput : host.output with
  | none =>
    simp only [close, houtput]
    exact ⟨rfl, hthread⟩
  | some output =>
    simp only [close, houtput]
    exact ⟨rfl, hthread⟩

theorem next?_stopThen (host : Host σ) (next : Afterwards) :
    (host.stopThen next).task.next? = some next := by
  unfold stopThen
  split <;> rfl

theorem next?_of_work {after : Afterwards} {closeFailure : Option Report}
    (h : host.work closeFailure = some (next, events)) (hn : host.task.next? = some after) :
    next.task.next? = some after ∨ host.task = .free after := by
  cases htask : host.task with
  | ready => cases htask ▸ hn
  | compiling path source byRequest => cases htask ▸ hn
  | looking later =>
    obtain rfl : later = after := by simpa [htask, Task.next?] using hn
    simp only [work, htask] at h
    cases h
    simp only
    split <;> exact .inl rfl
  | joining later =>
    obtain rfl : later = after := by simpa [htask, Task.next?] using hn
    simp only [work, htask] at h
    repeat' split at h
    all_goals cases h
    all_goals exact .inl rfl
  | free later =>
    obtain rfl : later = after := by simpa [htask, Task.next?] using hn
    exact .inr rfl
  | announcing later | raising later | settling later =>
    obtain rfl : later = after := by simpa [htask, Task.next?] using hn
    simp only [work, htask] at h
    cases h
    exact .inl rfl

theorem next?_of_step {after : Afterwards} (h : host.step turn = some (next, events))
    (hn : host.task.next? = some after) :
    next.task.next? = some after ∨
      host.task = .free after ∧ ∃ closeFailure, turn = .host closeFailure := by
  have hbusy : host.isReady = false := by
    cases htask : host.task <;> simp_all [isReady, Task.next?]
  cases turn with
  | host closeFailure => exact (next?_of_work h hn).imp_right fun htask => ⟨htask, _, rfl⟩
  | thread now refusal =>
    obtain ⟨active, -, h⟩ := Option.bind_eq_some_iff.1 h
    repeat' split at h
    all_goals cases h
    all_goals exact .inl hn
  | crash =>
    obtain ⟨later, hcrash, he⟩ := Option.map_eq_some_iff.1 h
    cases he
    obtain ⟨active, -, hcrash⟩ := Option.bind_eq_some_iff.1 hcrash
    repeat' split at hcrash
    all_goals cases hcrash
    exact .inl hn
  | stop =>
    obtain ⟨active, -, he⟩ := Option.bind_eq_some_iff.1 h
    cases he
    exact .inl hn
  | request request found => simp [step, hbusy] at h
  | compile path source => simp [step, hbusy] at h
  | collect => simp [step, hbusy] at h

end Host

namespace Chronicle

variable {σ : Type} {c next later : Chronicle σ} {output : σ} {turn : Turn} {turns : List Turn}

/-- A host that was asked to quit is about to close its output, or has none any more. -/
def Parting (c : Chronicle σ) : Prop :=
  c.QuitAsked → c.host.task.next? = some .close ∨ c.host.Gone

theorem Parting.step (ho : c.Orderly output) (h : c.Parting) (hstep : c.step turn = some next) :
    next.Parting := by
  obtain ⟨host, events, hturn, rfl⟩ := step_eq_some_iff.1 hstep
  rintro ⟨found, hfound⟩
  rcases List.mem_append.1 hfound with hbefore | hnow
  · rcases h ⟨found, hbefore⟩ with hnext | hgone
    · rcases Host.next?_of_step hturn hnext with hnext | ⟨htask, closeFailure, rfl⟩
      · exact .inl hnext
      · -- No thread is left when the output is closed.
        have hthread : c.host.thread? = none := ho.settled (by rw [htask]; rfl)
        simp only [Host.step, Host.work, htask] at hturn
        have hgone : (c.host.close closeFailure).1.Gone := Host.gone_of_close hthread
        rw [Option.some.inj hturn] at hgone
        exact .inr hgone
    · exact .inr (hgone.does (Host.does_of_step hturn)).1
  · obtain rfl := List.mem_singleton.1 hnow
    simp only [Host.step] at hturn
    split at hturn
    · cases hturn
      exact .inl (Host.next?_stopThen _ _)
    · cases hturn

theorem Parting.after (ho : c.Orderly output) (h : c.Parting)
    (hafter : c.after turns = some later) : later.Parting := by
  induction turns generalizing c with
  | nil =>
    obtain rfl := Option.some.inj hafter
    exact h
  | cons turn rest ih =>
    obtain ⟨next, hnext, hrest⟩ := Option.bind_eq_some_iff.1 hafter
    exact ih (ho.step hnext) (h.step ho hnext) hrest

theorem Parting.gone (h : c.Parting) (hquit : c.QuitAsked) (hready : c.host.isReady) :
    c.host.Gone := by
  have htask : c.host.task = .ready := by simpa [Host.isReady] using hready
  rcases h hquit with hnext | hgone
  · simp [htask, Task.next?] at hnext
  · exact hgone

theorem gone_after (h : c.host.Gone) (hafter : c.after turns = some later) :
    later.host.Gone ∧ ∃ events, later.events = c.events ++ events ∧ Silent events := by
  induction turns generalizing c with
  | nil =>
    obtain rfl := Option.some.inj hafter
    exact ⟨h, [], by simp, Host.silent_nil⟩
  | cons turn rest ih =>
    obtain ⟨next, hnext, hrest⟩ := Option.bind_eq_some_iff.1 hafter
    obtain ⟨host, seen, hturn, rfl⟩ := step_eq_some_iff.1 hnext
    obtain ⟨hgone, hsilent⟩ := h.does (Host.does_of_step hturn)
    obtain ⟨hlater, events, hevents, hs⟩ := ih hgone hrest
    refine ⟨hlater, seen ++ events, by rw [hevents, extend, List.append_assoc], ?_⟩
    exact List.forall_mem_append.2 ⟨hsilent, hs⟩

theorem Orderly.closes (ho : c.Orderly output) (hopen : ¬ c.Closed)
    (hstep : c.step turn = some next) (hclosed : next.Closed) :
    ∃ failure after, turn = .host failure ∧ c.host.active = none ∧ next.host.Gone ∧
      next.events = c.events ++ .play (.closed failure) :: after ∧ Silent after := by
  obtain ⟨host, events, hturn, rfl⟩ := step_eq_some_iff.1 hstep
  cases Host.does_of_step hturn with
  | close htask houtput hentry htask' houtput' hthread' hsilent =>
    obtain ⟨-, hthread, -⟩ := ho.held.of_output houtput
    exact ⟨_, _, rfl, Option.map_eq_none_iff.1 hthread, ⟨houtput', hthread'.trans hthread⟩, rfl,
      hsilent⟩
  | quiet hq => exact absurd ((closed_extend hq.silent).1 hclosed) hopen
  | launch _ _ _ _ _ _ hsilent => exact absurd ((closed_extend hsilent).1 hclosed) hopen
  | collect _ _ _ _ _ _ hsilent => exact absurd ((closed_extend hsilent).1 hclosed) hopen
  | bury _ _ _ _ _ _ hsilent => exact absurd ((closed_extend hsilent).1 hclosed) hopen
  | play => exact absurd (closed_extend_play hclosed) hopen
  | report _ _ _ _ _ hsilent => exact absurd ((closed_extend hsilent).1 hclosed) hopen
  | leave => exact absurd ((closed_extend Host.silent_nil).1 hclosed) hopen
  | crash => exact absurd ((closed_extend Host.silent_nil).1 hclosed) hopen

theorem Orderly.closed_after (ho : c.Orderly output) (hopen : ¬ c.Closed)
    (hafter : c.after turns = some later) (hclosed : later.Closed) :
    ∃ earlier failure rest before after, turns = earlier ++ .host failure :: rest ∧
      c.after earlier = some before ∧ before.host.active = none ∧ ¬ before.Closed ∧
      later.events = before.events ++ .play (.closed failure) :: after ∧ Silent after := by
  induction turns generalizing c with
  | nil =>
    obtain rfl := Option.some.inj hafter
    exact absurd hclosed hopen
  | cons turn rest ih =>
    obtain ⟨next, hnext, hrest⟩ := Option.bind_eq_some_iff.1 hafter
    by_cases hnow : next.Closed
    · -- Whatever comes after this turn finds no output.
      obtain ⟨failure, after, rfl, hactive, hgone, hevents, hsilent⟩ := ho.closes hopen hnext hnow
      obtain ⟨-, more, hmore, hs⟩ := gone_after hgone hrest
      refine ⟨[], failure, rest, c, after ++ more, rfl, rfl, hactive, hopen, ?_, ?_⟩
      · rw [hmore, hevents, List.append_assoc, List.cons_append]
      · exact List.forall_mem_append.2 ⟨hsilent, hs⟩
    · obtain ⟨earlier, failure, rest', before, after, rfl, hbefore, h⟩ :=
        ih (ho.step hnext) hnow hrest
      refine ⟨turn :: earlier, failure, rest', before, after, rfl, ?_, h⟩
      rw [after_cons, hnext, Option.bind_some, hbefore]

/-- A host without an output has closed it or lost it to a thread that broke down. -/
theorem Orderly.closed_iff (ho : c.Orderly output) (hgone : c.host.Gone) :
    c.Closed ↔ ¬ c.Crashed := by
  cases ho.held with
  | slot houtput => cases houtput.symm.trans hgone.output
  | thread _ hthread => cases hthread.symm.trans hgone.thread
  | closed _ _ hclosed _ hcrashed => exact iff_of_true hclosed hcrashed
  | lost _ _ hclosed hcrashed => exact iff_of_false hclosed (not_not_intro hcrashed)

theorem turns_of_after (h : c.after turns = some later) : later.turns = c.turns ++ turns := by
  induction turns generalizing c with
  | nil =>
    obtain rfl := Option.some.inj h
    simp
  | cons turn rest ih =>
    obtain ⟨next, hnext, hrest⟩ := Option.bind_eq_some_iff.1 h
    obtain ⟨host, events, -, rfl⟩ := step_eq_some_iff.1 hnext
    rw [ih hrest, extend, List.append_assoc, List.singleton_append]

theorem parting_ofHost (host : Host σ) : (ofHost host).Parting := by
  rintro ⟨found, hfound⟩
  cases hfound

theorem Orderly.not_closed (ho : c.Orderly output) (hquit : ¬ c.QuitAsked) : ¬ c.Closed := by
  intro hclosed
  cases ho.held with
  | closed _ _ _ hasked => exact hquit hasked
  | slot _ _ hopen => exact hopen hclosed
  | thread _ _ _ hopen => exact hopen hclosed
  | lost _ _ hopen => exact hopen hclosed

end Chronicle

/-- One of the turns closes the output. It finds no thread, nothing is closed before it, and
nothing is closed or written after it. -/
def Host.ClosesOnce {σ : Type} (first : Host σ) (turns : List Turn) (events : List HostEvent) :
    Prop :=
  ∃ earlier failure rest host before after, turns = earlier ++ .host failure :: rest ∧
    first.run earlier = some (host, before) ∧ host.active = none ∧
    events = before ++ .play (.closed failure) :: after ∧
    (∀ failure, .play (.closed failure) ∉ before) ∧ Silent after

theorem Chronicle.Orderly.closesOnce {σ : Type} {c later : Chronicle σ} {output : σ}
    {turns : List Turn} {events : List HostEvent} (ho : c.Orderly output) (hopen : ¬ c.Closed)
    (hafter : c.after turns = some later) (hevents : later.events = c.events ++ events)
    (hclosed : later.Closed) : c.host.ClosesOnce turns events := by
  obtain ⟨earlier, failure, rest, before, after, hturns, hbefore, hactive, hopen', heq, hsilent⟩ :=
    ho.closed_after hopen hafter hclosed
  obtain ⟨seen, hrun, hseen⟩ := run_of_after hbefore
  refine ⟨earlier, failure, rest, before.host, seen, after, hturns, hrun, hactive, ?_,
    fun failure' hmem => hopen' ⟨failure', by rw [hseen]; exact List.mem_append_right _ hmem⟩,
    hsilent⟩
  rw [hseen, hevents, List.append_assoc] at heq
  exact List.append_cancel_left heq

end PadScript
