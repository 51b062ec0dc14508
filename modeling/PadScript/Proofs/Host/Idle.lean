import PadScript.Proofs.Host.Closing
import PadScript.Proofs.Host.Rest
import PadScript.Proofs.Play.Ending

/-!
# An idle host

The thread of a play reports its end to the session, and its host settles the session once
more when it has taken the thread back. In between the host may still say that it is stopping
a play that has already reported. Wherever the two meet, a session that is idle names no
passes, one that is not has a play or is about to be settled (`Host.Told`), and a host that
comes back from ending a play without starting another one is idle (`idle_between_requests`).
-/

namespace PadScript

def Play.Tidy (play : Play) : Prop := ∀ result, play.result? = some result → play.progress.Idle

theorem Play.tidy_start (script : Script) (goal : Goal) (progress : Progress) :
    (start script goal progress).Tidy := by
  intro result h
  cases goal <;> cases h

theorem Play.Tidy.advance {play : Play} (h : play.Tidy) (moment : Moment) :
    (play.advance moment).1.Tidy := by
  intro result hresult
  cases hbefore : play.result? with
  | some earlier =>
    rw [advance_finished (phase_of_result? hbefore)]
    exact h earlier hbefore
  | none =>
    rw [finish_of_advance hbefore hresult]
    exact Progress.idle_reset play.progress

def Task.isEnding : Task → Bool
  | looking _ | announcing _ | raising _ | joining _ | settling _ => true
  | ready | compiling .. | free _ => false

namespace Host

variable {σ : Type} {host next : Host σ} {turn : Turn} {events : List HostEvent}

structure Idle (host : Host σ) : Prop where
  state : host.session.state = .idle
  passes : host.session.passes = none
  active : host.active = none
  progress : host.progress.Idle

/-- What the session and the progress say of plays, between the turns of a host. -/
structure Told (host : Host σ) : Prop where
  passes : host.session.state = .idle → host.session.passes = none
  active : host.session.state ≠ .idle → host.active.isSome ∨ host.task.isEnding
  free : ∀ after, host.task = .free after → host.session.state = .idle
  progress : host.idleProgress.Idle
  plays : ∀ held play, host.thread? = some (.playing held play) → play.Tidy

structure SameState (host next : Host σ) : Prop where
  state : next.session.state = host.session.state
  passes : next.session.passes = host.session.passes
  progress : next.idleProgress = host.idleProgress

-- ---------------------------------------------------------------------------
-- One turn
-- ---------------------------------------------------------------------------

theorem Told.state_of_none (h : host.Told) (hactive : host.active = none)
    (htask : host.task.isEnding = false) : host.session.state = .idle := by
  by_contra hstate
  rcases h.active hstate with hsome | hending
  · simp [hactive] at hsome
  · simp [htask] at hending

theorem Told.idle (h : host.Told) (hactive : host.active = none)
    (hstate : host.session.state = .idle) : host.Idle where
  state := hstate
  passes := h.passes hstate
  active := hactive
  progress := by
    rw [Host.progress, hactive]
    exact h.progress

theorem Told.goOn (h : host.Told) (hsame : host.SameState next)
    (hactive : next.active = host.active) (hending : host.task.isEnding → next.task.isEnding)
    (hfree : ∀ after, next.task = .free after → host.session.state = .idle) : next.Told where
  passes hstate := by
    rw [hsame.passes]
    exact h.passes (hsame.state ▸ hstate)
  active hstate := by
    rw [hactive]
    exact (h.active (hsame.state ▸ hstate)).imp_right hending
  free after htask := by
    rw [hsame.state]
    exact hfree after htask
  progress := hsame.progress ▸ h.progress
  plays held play hthread := by
    refine h.plays held play ?_
    rwa [thread?, ← hactive]

theorem Told.rest (h : host.Told) (hsame : host.SameState next)
    (hactive : next.active = host.active) (hstate : host.session.state = .idle) : next.Told where
  passes _ := by
    rw [hsame.passes]
    exact h.passes hstate
  active hne := absurd (hsame.state.trans hstate) hne
  free _ _ := hsame.state.trans hstate
  progress := hsame.progress ▸ h.progress
  plays held play hthread := by
    refine h.plays held play ?_
    rwa [thread?, ← hactive]

theorem told_stopThen (h : host.Told) (hready : host.task = .ready) (after : Afterwards) :
    (host.stopThen after).Told := by
  unfold stopThen
  cases hactive : host.active with
  | some active => exact h.goOn ⟨rfl, rfl, rfl⟩ hactive.symm (fun _ => rfl) (by simp)
  | none =>
    have hstate := h.state_of_none hactive (by rw [hready, Task.isEnding])
    exact h.rest ⟨rfl, rfl, rfl⟩ hactive.symm hstate

theorem told_beginRequest (h : host.Told) (hready : host.task = .ready) (request : Request)
    (found : Except Fault String) : (host.beginRequest request found).1.Told := by
  cases request with
  | compile path =>
    cases found with
    | ok source =>
      exact h.goOn ⟨rfl, rfl, rfl⟩ rfl (by simp [hready, Task.isEnding]) (by simp [beginRequest])
    | error fault => exact h.goOn ⟨rfl, rfl, rfl⟩ rfl id h.free
  | _ => exact told_stopThen h hready _

theorem state_compile (session : Session) (registry : Registry) (path : Option String)
    (source : String) : (session.compile registry path source).1.state = session.state ∧
      (session.compile registry path source).1.passes = session.passes := by
  unfold Session.compile
  generalize linesOf source = lines
  simp only
  generalize Script.ofLines registry lines = read
  cases read <;> exact ⟨rfl, rfl⟩

theorem sameState_compileNow (host : Host σ) (path : Option String) (source : String)
    (byRequest : Bool) : host.SameState (host.compileNow path source byRequest).1 ∧
      (host.compileNow path source byRequest).1.active = host.active := by
  obtain ⟨hstate, hpasses⟩ := state_compile host.session host.registry path source
  unfold compileNow
  generalize host.session.compile host.registry path source = compilation at hstate hpasses ⊢
  obtain ⟨session, error | count⟩ := compilation <;> exact ⟨⟨hstate, hpasses, rfl⟩, rfl⟩

theorem told_compileNow (h : host.Told) (hstate : host.session.state = .idle)
    (path : Option String) (source : String) (byRequest : Bool) :
    (host.compileNow path source byRequest).1.Told := by
  obtain ⟨hsame, hactive⟩ := host.sameState_compileNow path source byRequest
  exact h.rest hsame hactive hstate

theorem told_launch (h : host.Told) (hstate : host.session.state = .idle)
    (passes : Option Int32) : (host.launch passes).1.Told := by
  unfold launch
  cases hscript : host.session.script with
  | none =>
    simp only [hscript]
    exact h.rest ⟨rfl, rfl, rfl⟩ rfl hstate
  | some script =>
    simp only [hscript]
    cases houtput : host.output with
    | none => exact h.rest ⟨rfl, rfl, rfl⟩ rfl hstate
    | some output =>
      refine ⟨by simp [Session.launch], fun _ => .inl rfl, by simp, h.progress, ?_⟩
      intro held play hthread
      cases hthread
      exact Play.tidy_start _ _ _

theorem told_close (h : host.Told) (hstate : host.session.state = .idle)
    (failure : Option Report) : (host.close failure).1.Told := by
  unfold close
  cases host.output <;> exact h.rest ⟨rfl, rfl, rfl⟩ rfl hstate

theorem told_free (h : host.Told) {after : Afterwards} (htask : host.task = .free after)
    {closeFailure : Option Report} (hwork : host.work closeFailure = some (next, events)) :
    next.Told := by
  have hstate := h.free after htask
  simp only [work, htask] at hwork
  cases after with
  | nothing =>
    cases hwork
    exact h.rest ⟨rfl, rfl, rfl⟩ rfl hstate
  | launch passes =>
    have htold := told_launch h hstate passes
    rwa [Option.some.inj hwork] at htold
  | close =>
    have htold := told_close h hstate closeFailure
    rwa [Option.some.inj hwork] at htold
  | compile path source byRequest =>
    have htold := told_compileNow h hstate path source byRequest
    rwa [Option.some.inj hwork] at htold

theorem Told.settling (h : host.Told) (hsame : host.SameState next) {after : Afterwards}
    (htask : next.task = .settling after) (hactive : next.active = none) : next.Told where
  passes hstate := by
    rw [hsame.passes]
    exact h.passes (hsame.state ▸ hstate)
  active _ := .inr (by rw [htask, Task.isEnding])
  free _ hfree := by simp [htask] at hfree
  progress := hsame.progress ▸ h.progress
  plays _ _ hthread := by simp [thread?, hactive] at hthread

theorem told_work (h : host.Told) (hsettled : host.task.isSettled → host.thread? = none)
    {closeFailure : Option Report} (hwork : host.work closeFailure = some (next, events)) :
    next.Told := by
  cases htask : host.task with
  | ready => simp [work, htask] at hwork
  | free after => exact told_free h htask hwork
  | compiling path source byRequest =>
    simp only [work, htask] at hwork
    cases hactive : host.active with
    | none =>
      simp only [hactive] at hwork
      have hstate := h.state_of_none hactive (by rw [htask, Task.isEnding])
      have htold := told_compileNow h hstate path source byRequest
      rwa [Option.some.inj hwork] at htold
    | some active =>
      simp only [hactive] at hwork
      split at hwork
      all_goals
        cases hwork
        exact h.goOn ⟨rfl, rfl, rfl⟩ hactive.symm (by simp [htask, Task.isEnding]) (by simp)
  | looking after =>
    simp only [work, htask] at hwork
    cases hwork
    -- Finished or not, the host goes on to end the play.
    refine h.goOn ⟨rfl, rfl, rfl⟩ rfl (fun _ => ?_) (fun other hfree => ?_)
    · simp only
      split <;> rfl
    · simp only at hfree
      split at hfree <;> cases hfree
  | announcing after =>
    simp only [work, htask] at hwork
    cases hwork
    -- The play may have reported its end by now. It is settled again at the end.
    exact ⟨by simp, fun _ => .inr rfl, by simp, h.progress, h.plays⟩
  | raising after =>
    simp only [work, htask] at hwork
    cases hwork
    refine ⟨h.passes, fun _ => .inr rfl, by simp, h.progress, fun held play hthread => ?_⟩
    refine h.plays held play ?_
    simpa [thread?, Function.comp_def] using hthread
  | joining after =>
    simp only [work, htask] at hwork
    split at hwork
    · rename_i hactive
      cases hwork
      exact h.settling ⟨rfl, rfl, rfl⟩ rfl hactive
    · split at hwork
      · cases hwork
        exact h.settling ⟨rfl, rfl, rfl⟩ rfl rfl
      · cases hwork
        exact h.settling ⟨rfl, rfl, rfl⟩ rfl rfl
      · cases hwork
      · cases hwork
  | settling after =>
    have hthread : host.thread? = none := hsettled (by rw [htask, Task.isSettled])
    simp only [work, htask] at hwork
    cases hwork
    refine ⟨fun _ => rfl, fun hne => absurd rfl hne, fun _ _ => rfl, h.progress, ?_⟩
    intro held play hplaying
    cases hthread.symm.trans hplaying

theorem told_threadStep (h : host.Told) {now : Time} {refusal : Option Fault}
    (hsettled : host.task.isSettled → host.thread? = none)
    (hstep : host.threadStep now refusal = some (next, events)) : next.Told := by
  obtain ⟨⟨stopRequested, thread⟩, hactive, hstep⟩ := Option.bind_eq_some_iff.1 hstep
  have hthread : host.thread? = some thread := thread?_of_active hactive
  -- While there is a thread the host is not free.
  have hfree (after : Afterwards) (htask : host.task = .free after) : False := by
    have hnone := hsettled (by rw [htask, Task.isSettled])
    cases hthread.symm.trans hnone
  cases thread with
  | playing output play =>
    have htidy : play.Tidy := h.plays output play hthread
    cases hresult : play.result? with
    | some result =>
      simp only [hresult] at hstep
      cases hstep
      have hsettle : (reportResult host.session result).1.state = .idle ∧
          (reportResult host.session result).1.passes = none := by
        rcases result with fault | _ | _ <;> exact ⟨rfl, rfl⟩
      refine ⟨fun _ => hsettle.2, fun hne => absurd hsettle.1 hne, fun _ _ => hsettle.1,
        htidy result hresult, ?_⟩
      intro held other hplaying
      cases hplaying
    | none =>
      simp only [hresult] at hstep
      cases hstep
      refine ⟨h.passes, fun _ => .inl rfl, fun after htask => (hfree after htask).elim, h.progress,
        ?_⟩
      intro held other hplaying
      cases hplaying
      exact htidy.advance _
  | leaving output =>
    cases hstep
    refine ⟨h.passes, fun _ => .inl rfl, fun after htask => (hfree after htask).elim, h.progress,
      ?_⟩
    intro held other hplaying
    cases hplaying
  | returned output => cases hstep
  | crashed => cases hstep

theorem told_crash (h : host.Told) (hsettled : host.task.isSettled → host.thread? = none)
    (hcrash : host.crash = some next) : next.Told := by
  obtain ⟨⟨stopRequested, thread⟩, hactive, hcrash⟩ := Option.bind_eq_some_iff.1 hcrash
  have hthread : host.thread? = some thread := thread?_of_active hactive
  cases thread with
  | playing output play =>
    simp only at hcrash
    split at hcrash
    · cases hcrash
      refine ⟨h.passes, fun _ => .inl rfl, fun after htask => ?_, Progress.idle_reset _, ?_⟩
      · have hnone := hsettled (by rw [show host.task = .free after from htask, Task.isSettled])
        cases hthread.symm.trans hnone
      · intro held other hplaying
        cases hplaying
    · cases hcrash
  | _ => cases hcrash

theorem told_step (h : host.Told) (hsettled : host.task.isSettled → host.thread? = none)
    (hstep : host.step turn = some (next, events)) : next.Told := by
  cases turn with
  | request request found =>
    simp only [step] at hstep
    split at hstep
    · rename_i hready
      have htold := told_beginRequest h (by simpa [isReady] using hready) request found
      rwa [Option.some.inj hstep] at htold
    · cases hstep
  | compile path source =>
    simp only [step] at hstep
    split at hstep
    · rename_i hready
      have htask : host.task = .ready := by simpa [isReady] using hready
      cases hstep
      exact h.goOn ⟨rfl, rfl, rfl⟩ rfl (by simp [htask, Task.isEnding]) (by simp)
    · cases hstep
  | collect =>
    simp only [step] at hstep
    split at hstep
    · split at hstep
      · cases hstep
        exact h.goOn ⟨rfl, rfl, rfl⟩ rfl (fun _ => rfl) (by simp)
      · cases hstep
        exact h
    · cases hstep
  | host closeFailure => exact told_work h hsettled hstep
  | thread now refusal => exact told_threadStep h hsettled hstep
  | crash =>
    obtain ⟨later, hcrash, he⟩ := Option.map_eq_some_iff.1 hstep
    cases he
    exact told_crash h hsettled hcrash
  | stop =>
    obtain ⟨active, hactive, he⟩ := Option.bind_eq_some_iff.1 hstep
    cases he
    refine ⟨h.passes, fun _ => .inl rfl, h.free, h.progress, fun held play hthread => ?_⟩
    refine h.plays held play ?_
    rwa [thread?_of_active hactive]

-- ---------------------------------------------------------------------------
-- Requests
-- ---------------------------------------------------------------------------

/-- The host when it comes to rest, which it does with the last of these turns. -/
def comesBack (host : Host σ) : List Turn → Option (Host σ)
  | [] => if host.isReady then some host else none
  | turn :: rest =>
    if host.isReady then none
    else do
      let (next, _) ← host.step turn
      next.comesBack rest

/-- The host when it has handled a request, while these turns were taken. -/
def handle (host : Host σ) (request : Request) (found : Except Fault String)
    (meanwhile : List Turn) : Option (Host σ) := do
  let (next, _) ← host.step (.request request found)
  next.comesBack meanwhile

/-- A play is asked for, but in the end nothing is compiled or the output is gone. -/
def TurnsDown (host : Host σ) (request : Request) (found : Except Fault String)
    (meanwhile : List Turn) : Prop :=
  (request = .runOnce ∨ ∃ times, request = .runLoop times) ∧
    ∃ earlier last before seen, meanwhile = earlier ++ [last] ∧
      host.run (.request request found :: earlier) = some (before, seen) ∧
      (before.session.script = none ∨ before.output = none)

theorem comesBack_of_ready {turns : List Turn} {later : Host σ}
    (h : host.comesBack turns = some later) (hready : host.isReady = true) :
    turns = [] ∧ later = host := by
  cases turns with
  | nil =>
    rw [comesBack, if_pos hready] at h
    exact ⟨rfl, (Option.some.inj h).symm⟩
  | cons turn rest => simp [comesBack, hready] at h

theorem step_of_comesBack_cons {rest : List Turn} {later : Host σ}
    (h : host.comesBack (turn :: rest) = some later) :
    host.isReady = false ∧ ∃ next events, host.step turn = some (next, events) ∧
      next.comesBack rest = some later := by
  rw [comesBack.eq_def] at h
  simp only at h
  split at h
  · cases h
  · rename_i hbusy
    obtain ⟨⟨next, events⟩, hstep, hback⟩ := Option.bind_eq_some_iff.1 h
    exact ⟨by simpa using hbusy, next, events, hstep, hback⟩

theorem last_of_comesBack {after : Afterwards} {turns : List Turn} {later : Host σ}
    (hnext : host.task.next? = some after) (h : host.comesBack turns = some later) :
    ∃ earlier closeFailure before seen shown, turns = earlier ++ [.host closeFailure] ∧
      host.run earlier = some (before, seen) ∧ before.task = .free after ∧
      before.work closeFailure = some (later, shown) := by
  induction turns generalizing host with
  | nil =>
    have hbusy : host.isReady = false := by
      cases htask : host.task <;> simp_all [isReady, Task.next?]
    simp [comesBack, hbusy] at h
  | cons turn rest ih =>
    obtain ⟨-, next, seen, hstep, hback⟩ := step_of_comesBack_cons h
    rcases next?_of_step hstep hnext with hnext' | ⟨htask, closeFailure, rfl⟩
    · obtain ⟨earlier, closeFailure, before, more, shown, rfl, hrun, hfree, hwork⟩ :=
        ih hnext' hback
      refine ⟨turn :: earlier, closeFailure, before, seen ++ more, shown, rfl, ?_, hfree, hwork⟩
      exact run_cons_eq_some_iff.2 ⟨next, seen, more, hstep, hrun, rfl⟩
    · -- The last thing to do is done in one turn, and no other follows.
      obtain ⟨rested, shown, hwork, hready⟩ := work_of_free htask closeFailure
      cases hstep.symm.trans hwork
      obtain ⟨rfl, rfl⟩ := comesBack_of_ready hback (by simp [isReady, hready])
      exact ⟨[], closeFailure, host, [], seen, rfl, rfl, htask, hwork⟩

theorem next?_beginRequest {request : Request} {found : Except Fault String}
    (hstep : host.step (.request request found) = some (next, events)) :
    (request = .cancel → next.task.next? = some .nothing) ∧
    (request = .quit → next.task.next? = some .close) ∧
    (request = .runOnce → next.task.next? = some (.launch none)) ∧
    ∀ times, request = .runLoop times → next.task.next? = some (.launch (some times)) := by
  simp only [step] at hstep
  split at hstep
  · cases request with
    | compile path => simp
    | _ =>
      cases hstep
      simp [next?_stopThen]
  · cases hstep

theorem idle_of_work {before later : Host σ} {after : Afterwards} {closeFailure : Option Report}
    {shown : List HostEvent} (h : before.Idle) (htask : before.task = .free after)
    (hafter : after = .nothing ∨ after = .close ∨
      (∃ passes, after = .launch passes) ∧ (before.session.script = none ∨ before.output = none))
    (hwork : before.work closeFailure = some (later, shown)) : later.Idle := by
  have hprogress : before.idleProgress.Idle := by
    have hidle := h.progress
    rwa [Host.progress, h.active] at hidle
  have hkept (later : Host σ) (hsession : later.session = before.session)
      (hactive : later.active = before.active)
      (hidle : later.idleProgress = before.idleProgress) : later.Idle := by
    refine ⟨hsession ▸ h.state, hsession ▸ h.passes, hactive.trans h.active, ?_⟩
    rw [Host.progress, hactive, h.active, hidle]
    exact hprogress
  simp only [work, htask] at hwork
  rcases hafter with rfl | rfl | ⟨⟨passes, rfl⟩, hnothing⟩
  · cases hwork
    exact hkept _ rfl rfl rfl
  · simp only [close] at hwork
    cases houtput : before.output with
    | none =>
      simp only [houtput] at hwork
      cases hwork
      exact hkept _ rfl rfl rfl
    | some output =>
      simp only [houtput] at hwork
      cases hwork
      exact hkept _ rfl rfl rfl
  · simp only [launch] at hwork
    cases hscript : before.session.script with
    | none =>
      simp only [hscript] at hwork
      cases hwork
      exact hkept _ rfl rfl rfl
    | some script =>
      have houtput : before.output = none := by simpa [hscript] using hnothing
      simp only [hscript, houtput] at hwork
      cases hwork
      exact hkept _ rfl rfl rfl

end Host

namespace Chronicle

variable {σ : Type} {c later : Chronicle σ} {output : σ} {turns : List Turn}

theorem told_after (ho : c.Orderly output) (h : c.host.Told) (hafter : c.after turns = some later) :
    later.host.Told := by
  induction turns generalizing c with
  | nil =>
    obtain rfl := Option.some.inj hafter
    exact h
  | cons turn rest ih =>
    obtain ⟨next, hnext, hrest⟩ := Option.bind_eq_some_iff.1 hafter
    obtain ⟨host, events, hstep, rfl⟩ := step_eq_some_iff.1 hnext
    exact ih (ho.step hnext) (Host.told_step h ho.settled hstep) hrest

theorem told_ofHost {registry : Registry} {session : Session} {progress : Progress}
    (hsession : session.state = .idle ∧ session.passes = none) (hprogress : progress.Idle) :
    (ofHost (Host.given registry session progress output)).host.Told where
  passes _ := hsession.2
  active hne := absurd hsession.1 hne
  free _ _ := hsession.1
  progress := hprogress
  plays := by simp [ofHost, Host.given, Host.thread?]

theorem idle_of_handle (ho : c.Orderly output) (h : c.host.Told) {request : Request}
    {found : Except Fault String} {meanwhile : List Turn} {later : Host σ}
    (hback : c.host.handle request found meanwhile = some later)
    (hasked : request = .cancel ∨ request = .quit ∨ c.host.TurnsDown request found meanwhile) :
    later.Idle := by
  obtain ⟨⟨next, seen⟩, hstep, hback⟩ := Option.bind_eq_some_iff.1 hback
  obtain ⟨hcancel, hquit, honce, hloop⟩ := Host.next?_beginRequest hstep
  -- Whatever is asked, it ends with one turn of a host that is free.
  suffices hlast : ∀ after, next.task.next? = some after →
      (after = .nothing ∨ after = .close ∨ (∃ passes, after = .launch passes) ∧
        c.host.TurnsDown request found meanwhile) → later.Idle by
    rcases hasked with rfl | rfl | hdown
    · exact hlast .nothing (hcancel rfl) (.inl rfl)
    · exact hlast .close (hquit rfl) (.inr (.inl rfl))
    · rcases hdown.1 with rfl | ⟨times, rfl⟩
      · exact hlast _ (honce rfl) (.inr (.inr ⟨⟨_, rfl⟩, hdown⟩))
      · exact hlast _ (hloop times rfl) (.inr (.inr ⟨⟨_, rfl⟩, hdown⟩))
  intro after hnext hafter
  obtain ⟨earlier, closeFailure, before, more, shown, rfl, hrun, htask, hwork⟩ :=
    Host.last_of_comesBack hnext hback
  have hrun' : c.host.run (.request request found :: earlier) = some (before, seen ++ more) :=
    Host.run_cons_eq_some_iff.2 ⟨next, seen, more, hstep, hrun, rfl⟩
  obtain ⟨d, hd, rfl, -⟩ := after_of_run hrun'
  have htold : d.host.Told := told_after ho h hd
  have hactive : d.host.active = none :=
    Option.map_eq_none_iff.1 ((ho.after hd).settled (by rw [htask, Task.isSettled]))
  refine Host.idle_of_work (htold.idle hactive (htold.free after htask)) htask ?_ hwork
  refine hafter.imp_right (Or.imp_right (And.imp_right ?_))
  rintro ⟨-, earlier', last, before', seen', hturns, hbefore, hnothing⟩
  obtain ⟨rfl, -⟩ := List.append_inj' hturns rfl
  cases hrun'.symm.trans hbefore
  exact hnothing

end Chronicle

/-- Whatever a host is asked and however its plays end, a session that is found idle names no
passes; a host at rest whose session is not idle has a play; and when it has handled a request
to cancel or to quit, or one for a play that it cannot start, it is idle. -/
theorem idle_between_requests {σ : Type} (registry : Registry) (session : Session)
    (progress : Progress) (output : σ)
    (hsession : session.state = .idle ∧ session.passes = none) (hprogress : progress.Idle)
    {turns : List Turn} {host : Host σ} {events : List HostEvent}
    (h : (Host.given registry session progress output).run turns = some (host, events)) :
    (host.session.state = .idle → host.session.passes = none) ∧
    (host.isReady = true → host.session.state ≠ .idle → host.active.isSome = true) ∧
    ∀ request found meanwhile later, host.handle request found meanwhile = some later →
      (request = .cancel ∨ request = .quit ∨ host.TurnsDown request found meanwhile) →
      later.Idle := by
  change (Chronicle.ofHost (Host.given registry session progress output)).host.run turns = _ at h
  obtain ⟨c, hafter, rfl, -⟩ := Chronicle.after_of_run h
  have hfirst := Chronicle.orderly_ofHost registry session progress output
  have ho : c.Orderly output := hfirst.after hafter
  have htold : c.host.Told :=
    Chronicle.told_after hfirst (Chronicle.told_ofHost hsession hprogress) hafter
  refine ⟨htold.passes, fun hready hstate => ?_, fun request found meanwhile later =>
    Chronicle.idle_of_handle ho htold⟩
  have htask : c.host.task = .ready := by simpa [Host.isReady] using hready
  exact (htold.active hstate).resolve_right (by simp [htask, Task.isEnding])

def holding : List Turn :=
  List.flatten [[.compile none "Press A", .host none, .request .runOnce (.ok ""), .host none],
    .replicate 4 (.thread 10 none)]

/-- The host sees that the play goes on. Then the play ends by itself and says so, and only
after that does the host say that it stops the play. -/
def overtaken : List Turn :=
  List.flatten [[.host none], .replicate 8 (.thread 1000000000 none), .replicate 2 (.host none),
    [.thread 1000000000 none], .replicate 3 (.host none)]

theorem idle_between_requests_overtaken :
    ∃ host events, (Host.given .builtin {} {} ()).run holding = some (host, events) ∧
      host.session.state = .running ∧ host.progress.command = 0 ∧ host.active.isSome = true ∧
      ∃ later, host.handle .cancel (.ok "") overtaken = some later ∧ later.Idle := by
  have hseen : ((Host.given .builtin {} {} ()).run holding).map (fun seen =>
      (seen.1.session.state, seen.1.progress.command, seen.1.isReady,
        (seen.1.handle .cancel (.ok "") overtaken).isSome)) = some (.running, 0, true, true) := by
    decide +kernel
  obtain ⟨⟨host, events⟩, hrun, hs⟩ := Option.map_eq_some_iff.1 hseen
  simp only [Prod.mk.injEq] at hs
  obtain ⟨hstate, hcommand, hready, hback⟩ := hs
  obtain ⟨later, hlater⟩ := Option.isSome_iff_exists.1 hback
  obtain ⟨-, hactive, hidle⟩ :=
    idle_between_requests .builtin {} {} () ⟨rfl, rfl⟩ (Progress.idle_reset {}) hrun
  have hsome : host.active.isSome = true := hactive hready (by simp [hstate])
  refine ⟨host, events, hrun, hstate, hcommand, hsome, later, hlater, ?_⟩
  exact hidle .cancel (.ok "") overtaken later hlater (.inl rfl)

end PadScript
