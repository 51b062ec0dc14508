import Mathlib.Order.Monotone.Basic
import PadScript.Proofs.Play.Outline

/-!
# The end of a play

A play ends by one last action, which leaves what it published idle, and nothing
happens to it afterwards. Commands are finite, so under a clock that passes every
time a play comes to its end, unless it is to go on forever and nobody stops it
(`Play.ends`).
-/

namespace PadScript

structure Progress.Idle (progress : Progress) : Prop where
  command : progress.command = idleIndex
  line : progress.line = idleIndex
  pass : progress.pass = idleIndex
  hit : progress.hit = idleIndex
  timers : ∀ label, progress.timerStarted label = false

theorem Progress.idle_reset (progress : Progress) : progress.reset.Idle :=
  ⟨rfl, rfl, rfl, rfl, progress.timerStarted_reset⟩

theorem Steady.stopRequested_of_le {moments : Nat → Moment} (hm : Steady moments) {n m : Nat}
    (hnm : n ≤ m) (h : (moments n).stopRequested = true) : (moments m).stopRequested = true := by
  induction hnm with
  | refl => exact h
  | @step m _ ih => exact hm.stop m ih

namespace Play

variable {play : Play} {moments : Nat → Moment} {n m : Nat}

theorem result?_endPass (play : Play) (pass : Nat) : (play.endPass pass).result? = none := by
  obtain ⟨script, goal, context, phase⟩ := play
  cases goal <;> rfl

theorem result?_beginPass (play : Play) (pass : Nat) (moment : Moment) :
    (play.beginPass pass moment).result? = none := by
  unfold beginPass
  split
  · rfl
  · split <;> rfl

theorem result?_beginStep (play : Play) (pass step : Nat) (moment : Moment) :
    (play.beginStep pass step moment).result? = none := by
  unfold beginStep
  split
  · exact play.result?_endPass pass
  · split
    · exact play.result?_endPass pass
    · rfl

theorem finish_of_advance {moment : Moment} {result : Except Fault Outcome}
    (h : play.result? = none) (h' : (play.advance moment).1.result? = some result) :
    (play.advance moment).1 = play.finish result := by
  obtain ⟨script, goal, context, phase⟩ := play
  cases phase with
  | atPass pass => cases (result?_beginPass _ pass moment).symm.trans h'
  | atStep pass step => cases (result?_beginStep _ pass step moment).symm.trans h'
  | acting pass step routine =>
    cases routine with
    | act action next =>
      cases action with
      | write bytes =>
        simp only [advance, act] at h' ⊢
        split at h'
        · cases h'
          rfl
        · cases h'
      | _ => cases h'
    | fail fault =>
      cases h'
      rfl
    | pause p next => cases p <;> cases h'
    | _ => cases h'
  | waiting pass step deadline next =>
    simp only [advance] at h'
    split at h' <;> cases h'
  | ending =>
    cases h'
    rfl
  | finished result => cases h

theorem after_finished {result : Except Fault Outcome}
    (h : (play.after moments n).result? = some result) (hnm : n ≤ m) :
    play.after moments m = play.after moments n ∧ play.events moments m = play.events moments n ∧
      play.notes moments m = play.notes moments n := by
  induction hnm with
  | refl => exact ⟨rfl, rfl, rfl⟩
  | @step m _ ih =>
    obtain ⟨hafter, hevents, hnotes⟩ := ih
    have hphase := phase_of_result? h
    refine ⟨?_, ?_, ?_⟩
    · rw [after, hafter, advance_finished hphase]
    · rw [events, hevents, hafter, advance_finished hphase]
      simp
    · rw [notes, hnotes, hafter]
      simp [note?, deed?, hphase]

theorem idle_of_result? (script : Script) (goal : Goal) (progress : Progress)
    {result : Except Fault Outcome}
    (h : ((start script goal progress).after moments n).result? = some result) :
    ((start script goal progress).after moments n).progress.Idle := by
  induction n with
  | zero => cases goal <;> cases h
  | succ n ih =>
    cases hbefore : ((start script goal progress).after moments n).result? with
    | some earlier =>
      rw [(after_finished hbefore (Nat.le_succ n)).1]
      exact ih (by rw [hbefore, ← h, (after_finished hbefore (Nat.le_succ n)).1, hbefore])
    | none =>
      have hfinish := finish_of_advance hbefore h
      change ((start script goal progress).after moments (n + 1)) = _ at hfinish
      rw [hfinish]
      exact Progress.idle_reset _

-- ---------------------------------------------------------------------------
-- Going on
-- ---------------------------------------------------------------------------

/-- After the n-th moment the play comes to such a phase, or is over. -/
def Comes (play : Play) (moments : Nat → Moment) (n : Nat) (reached : Phase → Prop) : Prop :=
  ∃ m, n < m ∧ (reached (play.after moments m).phase ∨
    ∃ result, (play.after moments m).phase = .finished result)

def Ends (play : Play) (moments : Nat → Moment) (n : Nat) : Prop :=
  play.Comes moments n fun _ => False

section Comes

variable {reached final : Phase → Prop}

theorem Comes.now (h : reached ((play.after moments n).advance (moments n)).1.phase ∨
    ∃ result, ((play.after moments n).advance (moments n)).1.phase = .finished result) :
    play.Comes moments n reached := ⟨n + 1, Nat.lt_succ_self n, h⟩

theorem Comes.next (h : reached ((play.after moments n).advance (moments n)).1.phase) :
    play.Comes moments n reached := .now (.inl h)

theorem Comes.trans (h : play.Comes moments n reached)
    (hnext : ∀ m, n < m → reached (play.after moments m).phase →
      play.Comes moments m final) : play.Comes moments n final := by
  obtain ⟨m, hnm, hreached | hfinished⟩ := h
  · obtain ⟨k, hmk, hfinal⟩ := hnext m hnm hreached
    exact ⟨k, hnm.trans hmk, hfinal⟩
  · exact ⟨m, hnm, .inr hfinished⟩

end Comes

section Going

variable {pass step : Nat}

theorem comes_of_waiting {deadline : Time} {next : Bool → Routine Unit} {d : Nat}
    (hp : (play.after moments n).phase = .waiting pass step deadline next)
    (hd : deadline ≤ (moments (n + d)).now) :
    play.Comes moments n fun phase => ∃ answer, phase = .acting pass step (next answer) := by
  have hover {n : Nat} {answer : Bool}
      (hp : (play.after moments n).phase = .waiting pass step deadline next)
      (hpoll : pollWait deadline (moments n).toOutside = some answer) :
      play.Comes moments n fun phase => ∃ answer, phase = .acting pass step (next answer) := by
    refine .next ⟨answer, ?_⟩
    simp [advance, hp, hpoll]
  induction d generalizing n with
  | zero => exact hover hp (pollWait_eq_some_iff.2 ⟨rfl, .inr hd⟩)
  | succ d ih =>
    cases hpoll : pollWait deadline (moments n).toOutside with
    | some answer => exact hover hp hpoll
    | none =>
      have hwaiting : (play.after moments (n + 1)).phase = .waiting pass step deadline next := by
        simp [after, advance, hp, hpoll]
      obtain ⟨m, hnm, hm⟩ := ih hwaiting (by rwa [Nat.add_right_comm])
      exact ⟨m, Nat.lt_of_succ_lt hnm, hm⟩

theorem comes_of_acting (hm : Steady moments) (hclock : ∀ time, ∃ n, time ≤ (moments n).now)
    {routine : Routine Unit} (hp : (play.after moments n).phase = .acting pass step routine) :
    play.Comes moments n fun phase => phase = .atStep pass (step + 1) := by
  have hnow : Monotone fun n => (moments n).now := monotone_nat_of_le_succ hm.clock
  induction routine generalizing n with
  | done result =>
    refine .next ?_
    simp [advance, hp]
  | fail fault =>
    refine .now (.inr ⟨.error fault, ?_⟩)
    simp [advance, hp, finish]
  | act action next ih =>
    have hacted : play.Comes moments n fun phase => phase = .acting pass step next := by
      refine .now ?_
      simp only [advance, hp]
      cases action with
      | write bytes =>
        simp only [act]
        split
        · exact .inr ⟨_, rfl⟩
        · exact .inl rfl
      | _ => exact .inl rfl
    exact hacted.trans fun m _ => ih
  | check next ih =>
    have hasked : play.Comes moments n fun phase =>
        phase = .acting pass step (next (moments n).stopRequested) := by
      refine .next ?_
      simp [advance, hp]
    exact hasked.trans fun m _ => ih _
  | consult next ih =>
    have hseen : play.Comes moments n fun phase => phase = .acting pass step
        (next (play.after moments n).context (moments n).now) := by
      refine .next ?_
      simp [advance, hp]
    exact hseen.trans fun m _ => ih _ _
  | pause p next ih =>
    have hbegun : play.Comes moments n fun phase => ∃ deadline,
        phase = .waiting pass step deadline next := by
      refine .next ?_
      simp only [advance, hp]
      cases p <;> exact ⟨_, rfl⟩
    refine hbegun.trans ?_
    rintro m - ⟨deadline, hwaiting⟩
    obtain ⟨d, hd⟩ := hclock deadline
    refine (comes_of_waiting hwaiting (d := d) (hd.trans (hnow (Nat.le_add_left d m)))).trans ?_
    rintro k - ⟨answer, hacting⟩
    exact ih answer hacting

/-- What a pass of a play ends with. -/
def passOver (goal : Goal) (pass : Nat) : Phase :=
  match goal with
  | .once => .ending
  | .repeated _ => .atPass (pass + 1)

theorem phase_endPass (play : Play) (pass : Nat) :
    (play.endPass pass).phase = passOver play.goal pass := rfl

theorem comes_of_step (hm : Steady moments) (hclock : ∀ time, ∃ n, time ≤ (moments n).now)
    {left : Nat} (hleft : play.script.steps.size - step = left)
    (hp : (play.after moments n).phase = .atStep pass step) :
    play.Comes moments n fun phase => phase = passOver play.goal pass := by
  obtain ⟨hscript, hgoal⟩ := play.after_same moments n
  induction left generalizing n step with
  | zero =>
    have hnone : play.script.steps[step]? = none := Array.getElem?_eq_none (by omega)
    refine .next ?_
    simp only [advance, hp, beginStep, hscript, hnone]
    rw [phase_endPass, hgoal]
  | succ left ih =>
    have hsome : play.script.steps[step]? = some play.script.steps[step] :=
      Array.getElem?_eq_getElem (by omega)
    cases hstop : (moments n).stopRequested with
    | true =>
      refine .next ?_
      simp only [advance, hp, beginStep, hscript, hsome, hstop, if_true]
      rw [phase_endPass, hgoal]
    | false =>
      have hbegun : play.Comes moments n fun phase =>
          phase = .acting pass step play.script.steps[step].command.routine := by
        refine .next ?_
        simp [advance, hp, beginStep, hscript, hsome, hstop]
      refine hbegun.trans fun m _ hacting => ?_
      refine (comes_of_acting hm hclock hacting).trans fun k _ hnext => ?_
      obtain ⟨hscript', hgoal'⟩ := play.after_same moments k
      exact ih (by omega) hnext hscript' hgoal'

theorem phase_beginPass {count : Int32} (hgoal : play.goal = .repeated count) {moment : Moment} :
    (play.goal.Enough pass ∨ moment.stopRequested = true →
      (play.beginPass pass moment).phase = .ending) ∧
    (¬ (play.goal.Enough pass ∨ moment.stopRequested = true) →
      (play.beginPass pass moment).phase = .atStep pass 0) := by
  rw [hgoal, Goal.enough_repeated]
  constructor
  · intro h
    simp only [beginPass, hgoal]
    rw [if_pos h]
  · intro h
    simp only [beginPass, hgoal]
    rw [if_neg h]

theorem ends_of_ending (hp : (play.after moments n).phase = .ending) : play.Ends moments n := by
  refine .now (.inr ⟨.ok (moments n).toOutside.outcome, ?_⟩)
  simp only [advance, hp]
  rfl

/-- No pass begins any more after so many passes and moments. -/
def BoundedBy (play : Play) (moments : Nat → Moment) (bound : Nat) : Prop :=
  ∀ n pass, bound ≤ n → bound ≤ pass →
    play.goal.Enough pass ∨ (moments n).stopRequested = true

theorem exists_boundedBy (play : Play) (hm : Steady moments)
    (hstop : play.goal.passes? = none → ∃ n, (moments n).stopRequested = true) :
    ∃ bound, play.BoundedBy moments bound := by
  cases hcount : play.goal.passes? with
  | some passes => exact ⟨passes, fun n pass _ hle => .inl ⟨passes, hcount, hle⟩⟩
  | none =>
    obtain ⟨bound, hbound⟩ := hstop hcount
    exact ⟨bound, fun n pass hle _ => .inr (hm.stopRequested_of_le hle hbound)⟩

section Bounded

variable {bound : Nat} (hm : Steady moments) (hclock : ∀ time, ∃ n, time ≤ (moments n).now)
  (hbound : play.BoundedBy moments bound)
include hm hclock hbound

theorem ends_of_atPass {count : Int32} (hgoal : play.goal = .repeated count) {left : Nat}
    (hn : bound ≤ n + left) (hpass : bound ≤ pass + left)
    (hp : (play.after moments n).phase = .atPass pass) : play.Ends moments n := by
  have hnone (n pass : Nat) (hp : (play.after moments n).phase = .atPass pass)
      (hover : play.goal.Enough pass ∨ (moments n).stopRequested = true) :
      play.Ends moments n := by
    have hgoal' := (play.after_same moments n).2
    have hending : play.Comes moments n fun phase => phase = .ending := by
      refine .next ?_
      simp only [advance, hp]
      exact (phase_beginPass (hgoal'.trans hgoal)).1 (hgoal' ▸ hover)
    exact hending.trans fun m _ => ends_of_ending
  induction left generalizing n pass with
  | zero => exact hnone n pass hp (hbound n pass hn hpass)
  | succ left ih =>
    by_cases hover : play.goal.Enough pass ∨ (moments n).stopRequested = true
    · exact hnone n pass hp hover
    · have hgoal' := (play.after_same moments n).2
      have hbegun : play.Comes moments n fun phase => phase = .atStep pass 0 := by
        refine .next ?_
        simp only [advance, hp]
        exact (phase_beginPass (hgoal'.trans hgoal)).2 (hgoal' ▸ hover)
      refine hbegun.trans fun m hnm hstep => ?_
      refine (comes_of_step hm hclock rfl hstep).trans fun k hmk hnext => ?_
      rw [hgoal, passOver] at hnext
      exact ih (by omega) (by omega) hnext

theorem ends_of_atStep (hp : (play.after moments n).phase = .atStep pass step) :
    play.Ends moments n := by
  refine (comes_of_step hm hclock rfl hp).trans fun m _ hover => ?_
  cases hgoal : play.goal with
  | once =>
    rw [hgoal] at hover
    exact ends_of_ending hover
  | repeated count =>
    rw [hgoal] at hover
    exact ends_of_atPass hm hclock hbound hgoal (Nat.le_add_left bound m)
      (Nat.le_add_left bound (pass + 1)) hover

theorem ends_of_acting {routine : Routine Unit}
    (hp : (play.after moments n).phase = .acting pass step routine) : play.Ends moments n :=
  (comes_of_acting hm hclock hp).trans fun _ _ => ends_of_atStep hm hclock hbound

end Bounded

/-- Under a clock that passes every time a play ends, wherever it is now, unless it is to go
on until it is stopped and nobody stops it. -/
theorem ends (play : Play) (hm : Steady moments) (hclock : ∀ time, ∃ n, time ≤ (moments n).now)
    (hstop : play.goal.passes? = none → ∃ n, (moments n).stopRequested = true) :
    ∃ n result, (play.after moments n).result? = some result := by
  obtain ⟨bound, hbound⟩ := play.exists_boundedBy hm hstop
  have hends (h : play.Ends moments 0) :
      ∃ n result, (play.after moments n).result? = some result := by
    obtain ⟨n, -, hfalse | ⟨result, hfinished⟩⟩ := h
    · exact hfalse.elim
    · exact ⟨n, result, by rw [result?, hfinished]⟩
  have hphase : (play.after moments 0).phase = play.phase := rfl
  cases hp : play.phase with
  | atPass pass =>
    cases hgoal : play.goal with
    | once =>
      have hbegun : play.Comes moments 0 fun phase => phase = .atStep pass 0 := by
        refine .next ?_
        rw [after]
        simp only [advance, hp, beginPass, hgoal]
      exact hends (hbegun.trans fun m _ => ends_of_atStep hm hclock hbound)
    | repeated count =>
      exact hends (ends_of_atPass hm hclock hbound hgoal (Nat.le_add_left bound 0)
        (Nat.le_add_left bound pass) (hphase.trans hp))
  | atStep pass step => exact hends (ends_of_atStep hm hclock hbound (hphase.trans hp))
  | acting pass step routine => exact hends (ends_of_acting hm hclock hbound (hphase.trans hp))
  | waiting pass step deadline next =>
    obtain ⟨d, hd⟩ := hclock deadline
    have hdue : deadline ≤ (moments (0 + d)).now := by rwa [Nat.zero_add]
    refine hends ((comes_of_waiting (hphase.trans hp) hdue).trans fun m _ hover => ?_)
    obtain ⟨answer, hacting⟩ := hover
    exact ends_of_acting hm hclock hbound hacting
  | ending => exact hends (ends_of_ending (hphase.trans hp))
  | finished result => exact ⟨0, result, by rw [after, result?, hp]⟩

end Going

end Play

end PadScript
