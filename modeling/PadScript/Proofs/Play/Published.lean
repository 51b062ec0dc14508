import PadScript.Proofs.Play.Outline

/-!
# What a play publishes of its steps

From the moment a step begins until the next one does or the pass ends, the
published indices are those of that step, and what is performed is what its command
has left to do; at all other times the indices are idle. No action of a command
changes that, whatever the command is (`published_after`).
-/

namespace PadScript

/-- What a routine may come to leave to be done, after some of its actions. -/
inductive Routine.Leaves {α : Type} (r : Routine α) : Routine α → Prop
  | all : r.Leaves r
  | act {action next} (h : r.Leaves (.act action next)) : r.Leaves next
  | check {next} (answer : Bool) (h : r.Leaves (.check next)) : r.Leaves (next answer)
  | pause {p next} (answer : Bool) (h : r.Leaves (.pause p next)) : r.Leaves (next answer)
  | consult {next} (context : Context) (now : Time) (h : r.Leaves (.consult next)) :
      r.Leaves (next context now)

namespace Phase

/-- The step that was begun last in the pass under way. -/
def step? : Phase → Option Nat
  | acting _ step _ | waiting _ step _ _ | atStep _ (step + 1) => some step
  | atStep _ 0 | atPass _ | ending | finished _ => none

/-- The routine is under way, or goes on once a wait is over. -/
def Performs : Phase → Routine Unit → Prop
  | acting _ _ routine => fun r => r = routine
  | waiting _ _ _ next => fun r => ∃ answer, r = next answer
  | atPass _ | atStep .. | ending | finished _ => fun _ => False

end Phase

namespace Play

def current? (play : Play) : Option Step :=
  play.phase.step?.bind fun step => play.script.steps[step]?

structure Published (play : Play) : Prop where
  command : play.progress.command =
    (play.current?.map fun step => Int32.ofNat step.index).getD Progress.idleIndex
  line : play.progress.line =
    (play.current?.map fun step => Int32.ofNat step.line).getD Progress.idleIndex
  known : play.phase.step?.isSome → play.current?.isSome
  /-- What is performed is the rest of its command. -/
  rest : ∀ step, play.current? = some step → ∀ routine, play.phase.Performs routine →
    step.command.routine.Leaves routine

variable {play : Play}

theorem Published.of_idle (hcommand : play.progress.command = Progress.idleIndex)
    (hline : play.progress.line = Progress.idleIndex) (hphase : play.phase.step? = none) :
    play.Published := by
  have hnone : play.current? = none := by rw [current?, hphase, Option.bind_none]
  exact ⟨by rw [hcommand, hnone]; rfl, by rw [hline, hnone]; rfl, by simp [hphase], by simp [hnone]⟩

theorem Published.congr {next : Play} (h : play.Published) (hscript : next.script = play.script)
    (hphase : next.phase.step? = play.phase.step?)
    (hcommand : next.progress.command = play.progress.command)
    (hline : next.progress.line = play.progress.line)
    (hrest : ∀ r : Routine Unit, (∀ earlier, play.phase.Performs earlier → r.Leaves earlier) →
      ∀ later, next.phase.Performs later → r.Leaves later) : next.Published := by
  have hcurrent : next.current? = play.current? := by rw [current?, current?, hphase, hscript]
  refine ⟨by rw [hcommand, hcurrent, h.command], by rw [hline, hcurrent, h.line],
    by rw [hphase, hcurrent]; exact h.known, fun step hstep => hrest _ ?_⟩
  exact h.rest step (hcurrent ▸ hstep)

end Play

theorem Context.perform_indices (context : Context) (action : Action) (now : Time) :
    (context.perform action now).progress.command = context.progress.command ∧
      (context.perform action now).progress.line = context.progress.line := by
  cases action with
  | startTimer label =>
    simp only [perform, startTimer, Progress.activateHits]
    split <;> exact ⟨rfl, rfl⟩
  | _ => exact ⟨rfl, rfl⟩

namespace Play

variable {play : Play}

theorem published_start (script : Script) (goal : Goal) (progress : Progress) :
    (start script goal progress).Published := by
  cases goal <;> exact .of_idle rfl rfl rfl

theorem Published.finish (result : Except Fault Outcome) : (play.finish result).Published :=
  .of_idle rfl rfl rfl

theorem Published.endPass (pass : Nat) : (play.endPass pass).Published := by
  refine .of_idle rfl rfl ?_
  unfold Play.endPass
  cases play.goal <;> rfl

theorem Published.beginPass (h : play.Published) {pass : Nat} (hp : play.phase = .atPass pass)
    (moment : Moment) : (play.beginPass pass moment).Published := by
  obtain ⟨script, goal, context, phase⟩ := play
  subst hp
  cases goal with
  | once => exact h.congr rfl rfl rfl rfl fun _ _ _ hno => hno.elim
  | repeated count =>
    simp only [Play.beginPass]
    split
    · exact h.congr rfl rfl rfl rfl fun _ _ _ hno => hno.elim
    · exact h.congr rfl rfl rfl rfl fun _ _ _ hno => hno.elim

theorem Published.beginStep (pass step : Nat) (moment : Moment) :
    (play.beginStep pass step moment).Published := by
  unfold Play.beginStep
  split
  · exact .endPass pass
  · rename_i begun hbegun
    split
    · exact .endPass pass
    · have hcurrent : Play.current?
          { play with
            context := { play.context with
              progress := play.context.progress.setCommand begun.index begun.line }
            phase := .acting pass step begun.command.routine } = some begun := hbegun
      refine ⟨by rw [hcurrent]; rfl, by rw [hcurrent]; rfl, by simp [hcurrent], ?_⟩
      rintro other hother routine rfl
      obtain rfl := Option.some.inj (hcurrent.symm.trans hother)
      exact .all

theorem Published.act (h : play.Published) {pass step : Nat} {action : Action}
    {next : Routine Unit} (hp : play.phase = .acting pass step (.act action next))
    (moment : Moment) : (play.act pass step action next moment).1.Published := by
  obtain ⟨script, goal, context, phase⟩ := play
  subst hp
  obtain ⟨hcommand, hline⟩ := context.perform_indices action moment.now
  have hrest (r : Routine Unit)
      (hr : ∀ earlier, (Phase.acting pass step (.act action next)).Performs earlier →
        r.Leaves earlier) (later : Routine Unit)
      (hl : (Phase.acting pass step next).Performs later) : r.Leaves later := by
    obtain rfl : later = next := hl
    exact .act (hr _ rfl)
  cases action with
  | write bytes =>
    simp only [Play.act]
    split
    · exact .finish _
    · exact h.congr rfl rfl rfl rfl hrest
  | _ => exact h.congr rfl rfl hcommand hline hrest

theorem Published.advance (h : play.Published) (moment : Moment) :
    (play.advance moment).1.Published := by
  obtain ⟨script, goal, context, phase⟩ := play
  cases phase with
  | atPass pass => exact h.beginPass rfl moment
  | atStep pass step => exact .beginStep pass step moment
  | acting pass step routine =>
    cases routine with
    | act action next => exact h.act rfl moment
    | done result => exact h.congr rfl rfl rfl rfl fun _ _ _ hno => hno.elim
    | fail fault => exact .finish _
    | check next =>
      refine h.congr rfl rfl rfl rfl fun r hr => ?_
      rintro _ rfl
      exact .check _ (hr _ rfl)
    | consult next =>
      refine h.congr rfl rfl rfl rfl fun r hr => ?_
      rintro _ rfl
      exact .consult _ _ (hr _ rfl)
    | pause p next =>
      cases p <;>
      · refine h.congr rfl rfl rfl rfl fun r hr => ?_
        rintro _ ⟨answer, rfl⟩
        exact .pause answer (hr _ rfl)
  | waiting pass step deadline next =>
    simp only [Play.advance]
    split
    · rename_i answer _
      refine h.congr rfl rfl rfl rfl fun r hr => ?_
      rintro _ rfl
      exact hr _ ⟨answer, rfl⟩
    · exact h
  | ending => exact .finish _
  | finished result => exact h

/-- Whatever the commands do, a play publishes the step it is at. -/
theorem published_after (script : Script) (goal : Goal) (progress : Progress)
    (moments : Nat → Moment) (n : Nat) :
    ((start script goal progress).after moments n).Published := by
  induction n with
  | zero => exact published_start script goal progress
  | succ n ih => exact ih.advance (moments n)

end Play

end PadScript
