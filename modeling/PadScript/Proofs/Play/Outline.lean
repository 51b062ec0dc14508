import PadScript.Proofs.Play.Notes

/-!
# Proof outlines of plays

`Routine.Meets` is the weakest precondition of a routine: performed from here on
under any clock and any requests, it keeps a promise at every moment and establishes
a result. An `Outline` says what holds between the routines, before each pass and
each step. When an outline is sound, `Outline.Sound.at_after` carries it through every
moment of a play, so a law of plays needs one lemma for each command and none about
`Play.advance`.
-/

namespace PadScript

namespace Context

def perform (context : Context) (action : Action) (now : Time) : Context :=
  match action with
  | .restartTimer label => context.restartTimer label now
  | .startTimer label => context.startTimer label now
  | .restartDelay => context.restartDelay now
  | .nextHit => context.nextHit
  | .store change => { context with store := change context.store }
  | .write _ | .log _ | .signal _ => context

def beginPause (context : Context) (pause : Pause) (now : Time) : Context × Time :=
  match pause with
  | .delay ms fresh =>
    ({ context with timers := (context.timers.beginDelay ms.toNat fresh now).1 },
      (context.timers.beginDelay ms.toNat fresh now).2)
  | .timer label ms => (context, context.timers.deadlineOn label ms.toNat now)

end Context

theorem pollWait_eq_some_iff {deadline : Time} {outside : Outside} {answer : Bool} :
    pollWait deadline outside = some answer ↔
      answer = outside.stopRequested ∧ (outside.stopRequested = true ∨ deadline ≤ outside.now) := by
  cases answer with
  | true =>
    rw [pollWait_eq_some_true_iff]
    cases outside.stopRequested <;> simp
  | false =>
    rw [pollWait_eq_some_false_iff]
    cases outside.stopRequested <;> simp

/-- What the step at a place of a play promises while it is performed: `always` at
every moment, and `aborted` should the output refuse a write. -/
structure Promise where
  pass : Nat
  step : Nat
  always : Context → List Note → Prop
  aborted : List Note → Prop

def Promise.note (promise : Promise) (outside : Outside) (deed : Deed) : Note :=
  ⟨outside, promise.pass, promise.step, deed⟩

/-- A wait until `deadline` keeps the promise, and `resumed` holds of every answer it may get. -/
def Promise.Awaits (promise : Promise) (deadline : Time)
    (resumed : Bool → Context → List Note → Prop) (context : Context) (notes : List Note) : Prop :=
  promise.always context notes ∧
    ∀ outside, Follows notes outside → (outside.stopRequested = true ∨ deadline ≤ outside.now) →
      resumed outside.stopRequested context (notes ++ [promise.note outside .waitOver])

namespace Routine

variable {α β : Type} {promise : Promise} {context : Context} {notes : List Note}

/-- However the clock goes on and whenever the stop flag is raised, the routine keeps
the promise, and `post` holds of its result. -/
def Meets (promise : Promise) (post : α → Context → List Note → Prop) :
    Routine α → Context → List Note → Prop
  | done result, context, notes => promise.always context notes ∧ post result context notes
  | fail _, context, notes => promise.always context notes ∧ promise.aborted notes
  | act action next, context, notes =>
    promise.always context notes ∧ ∀ outside, Follows notes outside →
      (∀ bytes, action = .write bytes →
        promise.aborted (notes ++ [promise.note outside (.refused bytes)])) ∧
      next.Meets promise post (context.perform action outside.now)
        (notes ++ [promise.note outside (.performed action)])
  | check next, context, notes =>
    promise.always context notes ∧ ∀ outside, Follows notes outside →
      (next outside.stopRequested).Meets promise post context
        (notes ++ [promise.note outside .asked])
  | pause p next, context, notes =>
    promise.always context notes ∧ ∀ outside, Follows notes outside →
      promise.Awaits (context.beginPause p outside.now).2
        (fun answer => (next answer).Meets promise post)
        (context.beginPause p outside.now).1 (notes ++ [promise.note outside (.waitBegun p)])
  | consult next, context, notes =>
    promise.always context notes ∧ ∀ outside, Follows notes outside →
      (next context outside.now).Meets promise post context notes

theorem Meets.always {post : α → Context → List Note → Prop} {r : Routine α}
    (h : r.Meets promise post context notes) : promise.always context notes := by
  cases r <;> exact h.1

theorem Meets.mono {post post' : α → Context → List Note → Prop} {r : Routine α}
    (h : r.Meets promise post context notes)
    (hf : ∀ result context notes, post result context notes → post' result context notes) :
    r.Meets promise post' context notes := by
  induction r generalizing context notes with
  | done result => exact ⟨h.1, hf _ _ _ h.2⟩
  | fail => exact h
  | act action next ih => exact ⟨h.1, fun o ho => ⟨(h.2 o ho).1, ih (h.2 o ho).2⟩⟩
  | check next ih => exact ⟨h.1, fun o ho => ih _ (h.2 o ho)⟩
  | pause p next ih =>
    exact ⟨h.1, fun o ho => ⟨(h.2 o ho).1, fun o' ho' hp => ih _ ((h.2 o ho).2 o' ho' hp)⟩⟩
  | consult next ih => exact ⟨h.1, fun o ho => ih _ _ (h.2 o ho)⟩

theorem Meets.bind {post : β → Context → List Note → Prop} {r : Routine α}
    {k : α → Routine β}
    (h : r.Meets promise (fun result => (k result).Meets promise post) context notes) :
    (r >>= k).Meets promise post context notes := by
  induction r generalizing context notes with
  | done result => exact h.2
  | fail => exact h
  | act action next ih => exact ⟨h.1, fun o ho => ⟨(h.2 o ho).1, ih (h.2 o ho).2⟩⟩
  | check next ih => exact ⟨h.1, fun o ho => ih _ (h.2 o ho)⟩
  | pause p next ih =>
    exact ⟨h.1, fun o ho => ⟨(h.2 o ho).1, fun o' ho' hp => ih _ ((h.2 o ho).2 o' ho' hp)⟩⟩
  | consult next ih => exact ⟨h.1, fun o ho => ih _ _ (h.2 o ho)⟩

end Routine

/-- What is to hold of the context and the notes of a play, phase by phase. -/
structure Outline where
  beforePass : Nat → Context → List Note → Prop
  beforeStep : Nat → Nat → Context → List Note → Prop
  during : Nat → Nat → Context → List Note → Prop
  afterLast : Context → List Note → Prop
  ended : Outcome → List Note → Prop
  aborted : List Note → Prop

def Outside.outcome (outside : Outside) : Outcome :=
  if outside.stopRequested then .interrupted else .completed

namespace Goal

/-- How many passes a play is to make; `none` when it goes on until it is stopped. -/
def passes? : Goal → Option Nat
  | once => some 1
  | repeated count => if 0 ≤ count then some count.toInt.toNat else none

def Enough (goal : Goal) (pass : Nat) : Prop := ∃ n, goal.passes? = some n ∧ n ≤ pass

theorem enough_repeated {count : Int32} {pass : Nat} :
    (repeated count).Enough pass ↔ 0 ≤ count ∧ count.toInt ≤ pass := by
  unfold Enough passes?
  by_cases h : 0 ≤ count
  · simp only [h, if_true, Option.some.injEq, exists_eq_left', Int.toNat_le, true_and]
  · simp [h]

end Goal

namespace Outline

def promise (outline : Outline) (pass step : Nat) : Promise :=
  ⟨pass, step, outline.during pass step, outline.aborted⟩

def afterPass (outline : Outline) (goal : Goal) (pass : Nat) : Context → List Note → Prop :=
  match goal with
  | .once => outline.afterLast
  | .repeated _ => outline.beforePass (pass + 1)

def initially (outline : Outline) (goal : Goal) : Context → List Note → Prop :=
  match goal with
  | .once => outline.beforeStep 0 0
  | .repeated _ => outline.beforePass 0

/-- Each part of the outline leads to the next. -/
structure Sound (outline : Outline) (script : Script) (goal : Goal) : Prop where
  enough : ∀ {pass context notes}, goal.Enough pass →
    outline.beforePass pass context notes → outline.afterLast context notes
  noPass : ∀ {pass context notes outside}, Follows notes outside → outside.stopRequested = true →
    outline.beforePass pass context notes →
    outline.afterLast context (notes ++ [⟨outside, pass, 0, .heldBack⟩])
  beginPass : ∀ {pass context notes outside}, ¬ goal.Enough pass → Follows notes outside →
    outside.stopRequested = false → outline.beforePass pass context notes → ∀ shown,
    outline.beforeStep pass 0 { context with progress := context.progress.setPass shown }
      (notes ++ [⟨outside, pass, 0, .passBegun⟩])
  beginStep : ∀ {pass index step context notes outside}, script.steps[index]? = some step →
    Follows notes outside → outside.stopRequested = false →
    outline.beforeStep pass index context notes →
    step.command.routine.Meets (outline.promise pass index)
      (fun _ => outline.beforeStep pass (index + 1))
      { context with progress := context.progress.setCommand step.index step.line }
      (notes ++ [⟨outside, pass, index, .stepBegun⟩])
  noStep : ∀ {pass index context notes outside}, index < script.steps.size →
    Follows notes outside → outside.stopRequested = true →
    outline.beforeStep pass index context notes →
    outline.afterPass goal pass { context with progress := context.progress.endPass }
      (notes ++ [⟨outside, pass, index, .heldBack⟩])
  endPass : ∀ {pass index context notes}, script.steps.size ≤ index →
    outline.beforeStep pass index context notes →
    outline.afterPass goal pass { context with progress := context.progress.endPass } notes
  finish : ∀ {context notes outside}, Follows notes outside → outline.afterLast context notes →
    outline.ended outside.outcome notes

theorem Sound.aborting {outline : Outline} {script : Script} {goal : Goal}
    (hs : outline.Sound script goal) {aborted : List Note → Prop}
    (hstep : ∀ {pass index step context notes outside}, script.steps[index]? = some step →
      Follows notes outside → outside.stopRequested = false →
      outline.beforeStep pass index context notes →
      step.command.routine.Meets ⟨pass, index, outline.during pass index, aborted⟩
        (fun _ => outline.beforeStep pass (index + 1))
        { context with progress := context.progress.setCommand step.index step.line }
        (notes ++ [⟨outside, pass, index, .stepBegun⟩])) :
    { outline with aborted }.Sound script goal where
  enough := hs.enough
  noPass := hs.noPass
  beginPass := hs.beginPass
  beginStep := hstep
  noStep := hs.noStep
  endPass := hs.endPass
  finish := hs.finish

def At (outline : Outline) (goal : Goal) (phase : Phase) : Context → List Note → Prop :=
  match phase with
  | .atPass pass => fun context notes => goal ≠ .once ∧ outline.beforePass pass context notes
  | .atStep pass step => outline.beforeStep pass step
  | .acting pass step routine =>
    routine.Meets (outline.promise pass step) fun _ => outline.beforeStep pass (step + 1)
  | .waiting pass step deadline next =>
    (outline.promise pass step).Awaits deadline fun answer =>
      (next answer).Meets (outline.promise pass step) fun _ => outline.beforeStep pass (step + 1)
  | .ending => outline.afterLast
  | .finished (.ok outcome) => fun _ => outline.ended outcome
  | .finished (.error _) => fun _ => outline.aborted

variable {outline : Outline} {script : Script} {goal : Goal} {play : Play} {notes : List Note}
  {moment : Moment} {pass step : Nat}

theorem at_start (progress : Progress)
    (h : outline.initially goal { progress := progress.reset } []) :
    outline.At goal (Play.start script goal progress).phase
      (Play.start script goal progress).context [] := by
  cases goal with
  | once => exact h
  | repeated count => exact ⟨by simp, h⟩

theorem at_endPass (h : outline.afterPass play.goal pass
      { play.context with progress := play.context.progress.endPass } notes) :
    outline.At play.goal (play.endPass pass).phase (play.endPass pass).context notes := by
  rcases play with ⟨script, goal, context, phase⟩
  cases goal with
  | once => exact h
  | repeated count => exact ⟨by simp, h⟩

theorem Sound.at_beginPass (hs : outline.Sound play.script play.goal)
    (hp : play.phase = .atPass pass) (hf : Follows notes moment.toOutside)
    (h : outline.At play.goal play.phase play.context notes) :
    outline.At play.goal (play.advance moment).1.phase (play.advance moment).1.context
      (notes ++ (play.note? moment).toList) := by
  obtain ⟨script, goal, context, phase⟩ := play
  subst hp
  obtain ⟨hr, h⟩ := h
  obtain ⟨count, rfl⟩ : ∃ count, goal = .repeated count := by
    cases goal with
    | once => exact absurd rfl hr
    | repeated count => exact ⟨count, rfl⟩
  simp only [Play.advance, Play.beginPass, Play.note?, Play.deed?, Play.place]
  by_cases he : 0 ≤ count ∧ count.toInt ≤ (pass : Int)
  · simpa [At, he] using hs.enough (Goal.enough_repeated.2 he) h
  · cases hm : moment.stopRequested with
    | true => simpa [At, he, hm] using hs.noPass hf hm h
    | false => simpa [At, he, hm] using hs.beginPass (mt Goal.enough_repeated.1 he) hf hm h _

theorem Sound.at_beginStep (hs : outline.Sound play.script play.goal)
    (hp : play.phase = .atStep pass step) (hf : Follows notes moment.toOutside)
    (h : outline.At play.goal play.phase play.context notes) :
    outline.At play.goal (play.advance moment).1.phase (play.advance moment).1.context
      (notes ++ (play.note? moment).toList) := by
  obtain ⟨script, goal, context, phase⟩ := play
  subst hp
  simp only [Play.advance, Play.beginStep, Play.note?, Play.deed?, Play.place]
  rcases Nat.lt_or_ge step script.steps.size with hlt | hge
  · have hstep : script.steps[step]? = some script.steps[step] := Array.getElem?_eq_getElem hlt
    cases hm : moment.stopRequested with
    | true =>
      simp only [hstep, hlt, if_true]
      exact at_endPass (hs.noStep hlt hf hm h)
    | false =>
      simp only [hstep, hlt, Bool.false_eq_true, if_false, if_true]
      exact hs.beginStep hstep hf hm h
  · simp only [Array.getElem?_eq_none hge, Nat.not_lt.2 hge, if_false]
    simpa using at_endPass (hs.endPass hge h)

theorem at_act {action : Action} {next : Routine Unit}
    (hp : play.phase = .acting pass step (.act action next)) (hf : Follows notes moment.toOutside)
    (h : outline.At play.goal play.phase play.context notes) :
    outline.At play.goal (play.advance moment).1.phase (play.advance moment).1.context
      (notes ++ (play.note? moment).toList) := by
  obtain ⟨script, goal, context, phase⟩ := play
  subst hp
  obtain ⟨haborted, hnext⟩ := h.2 moment.toOutside hf
  simp only [Play.advance, Play.note?, Play.deed?, Play.place]
  cases action with
  | write bytes =>
    cases hm : moment.refusal with
    | none =>
      simp only [Play.act, hm]
      exact hnext
    | some fault =>
      simp only [Play.act, hm]
      exact haborted bytes rfl
  | _ => exact hnext

theorem at_acting {routine : Routine Unit} (hp : play.phase = .acting pass step routine)
    (hf : Follows notes moment.toOutside)
    (h : outline.At play.goal play.phase play.context notes) :
    outline.At play.goal (play.advance moment).1.phase (play.advance moment).1.context
      (notes ++ (play.note? moment).toList) := by
  cases routine with
  | act action next => exact at_act hp hf h
  | done result =>
    obtain ⟨script, goal, context, phase⟩ := play
    subst hp
    simpa [At, Play.advance, Play.note?, Play.deed?] using h.2
  | fail fault =>
    obtain ⟨script, goal, context, phase⟩ := play
    subst hp
    simpa [At, Play.advance, Play.note?, Play.deed?, Play.finish, promise] using h.2
  | check next =>
    obtain ⟨script, goal, context, phase⟩ := play
    subst hp
    exact h.2 moment.toOutside hf
  | pause p next =>
    obtain ⟨script, goal, context, phase⟩ := play
    subst hp
    have hawaits := h.2 moment.toOutside hf
    cases p <;> exact hawaits
  | consult next =>
    obtain ⟨script, goal, context, phase⟩ := play
    subst hp
    simpa [At, Play.advance, Play.note?, Play.deed?] using h.2 moment.toOutside hf

theorem at_waiting {deadline : Time} {next : Bool → Routine Unit}
    (hp : play.phase = .waiting pass step deadline next) (hf : Follows notes moment.toOutside)
    (h : outline.At play.goal play.phase play.context notes) :
    outline.At play.goal (play.advance moment).1.phase (play.advance moment).1.context
      (notes ++ (play.note? moment).toList) := by
  obtain ⟨script, goal, context, phase⟩ := play
  subst hp
  simp only [Play.advance, Play.note?, Play.deed?, Play.place]
  cases hw : pollWait deadline moment.toOutside with
  | none => simpa [hw] using h
  | some answer =>
    obtain ⟨rfl, hend⟩ := pollWait_eq_some_iff.1 hw
    exact h.2 moment.toOutside hf hend

/-- One action of a play keeps to a sound outline. -/
theorem Sound.at_advance (hs : outline.Sound play.script play.goal)
    (hf : Follows notes moment.toOutside)
    (h : outline.At play.goal play.phase play.context notes) :
    outline.At play.goal (play.advance moment).1.phase (play.advance moment).1.context
      (notes ++ (play.note? moment).toList) := by
  cases hp : play.phase with
  | atPass pass => exact hs.at_beginPass hp hf h
  | atStep pass step => exact hs.at_beginStep hp hf h
  | acting pass step routine => exact at_acting hp hf h
  | waiting pass step deadline next => exact at_waiting hp hf h
  | ending =>
    rw [hp] at h
    have hended := hs.finish hf h
    simpa [At, Play.advance, Play.note?, Play.deed?, Play.finish, Outside.outcome, hp] using hended
  | finished result =>
    rw [Play.advance_finished hp]
    simpa [Play.note?, Play.deed?, hp] using h

end Outline

namespace Play

theorem advance_same (play : Play) (moment : Moment) :
    (play.advance moment).1.script = play.script ∧ (play.advance moment).1.goal = play.goal := by
  obtain ⟨script, goal, context, phase⟩ := play
  cases phase with
  | atPass pass =>
    simp only [advance, beginPass]
    repeat' split
    all_goals exact ⟨rfl, by simp_all⟩
  | atStep pass step =>
    simp only [advance, beginStep]
    repeat' split
    all_goals exact ⟨rfl, rfl⟩
  | acting pass step routine =>
    cases routine with
    | act action next =>
      cases action with
      | write bytes =>
        simp only [advance, act]
        split <;> exact ⟨rfl, rfl⟩
      | _ => exact ⟨rfl, rfl⟩
    | pause p next => cases p <;> exact ⟨rfl, rfl⟩
    | _ => exact ⟨rfl, rfl⟩
  | waiting pass step deadline next =>
    simp only [advance]
    split <;> exact ⟨rfl, rfl⟩
  | _ => exact ⟨rfl, rfl⟩

theorem phase_of_result? {play : Play} {result : Except Fault Outcome}
    (h : play.result? = some result) : play.phase = .finished result := by
  unfold result? at h
  split at h
  · rename_i hp
    rw [hp, Option.some.inj h]
  · cases h

theorem outcome_of_advance {play : Play} {moment : Moment} {outcome : Outcome}
    (h : play.result? = none) (h' : (play.advance moment).1.result? = some (.ok outcome)) :
    outcome = moment.toOutside.outcome := by
  obtain ⟨script, goal, context, phase⟩ := play
  cases phase with
  | atPass pass =>
    simp only [advance, beginPass] at h'
    repeat' split at h'
    all_goals cases h'
  | atStep pass step =>
    simp only [advance, beginStep, endPass] at h'
    cases goal
    all_goals repeat' split at h'
    all_goals cases h'
  | acting pass step routine =>
    cases routine with
    | act action next =>
      cases action with
      | write bytes =>
        simp only [advance, act] at h'
        split at h' <;> cases h'
      | _ => cases h'
    | pause p next => cases p <;> cases h'
    | _ => cases h'
  | waiting pass step deadline next =>
    simp only [advance] at h'
    split at h' <;> cases h'
  | ending =>
    cases h'
    rfl
  | finished result => cases h

theorem after_same (play : Play) (moments : Nat → Moment) (n : Nat) :
    (play.after moments n).script = play.script ∧ (play.after moments n).goal = play.goal := by
  induction n with
  | zero => exact ⟨rfl, rfl⟩
  | succ n ih =>
    obtain ⟨hscript, hgoal⟩ := (play.after moments n).advance_same (moments n)
    exact ⟨hscript.trans ih.1, hgoal.trans ih.2⟩

end Play

/-- A sound outline holds at every moment of a play. -/
theorem Outline.Sound.at_after {outline : Outline} {script : Script} {goal : Goal}
    (hs : outline.Sound script goal) {progress : Progress}
    (hi : outline.initially goal { progress := progress.reset } []) {moments : Nat → Moment}
    (hm : Steady moments) (n : Nat) :
    outline.At goal ((Play.start script goal progress).after moments n).phase
      ((Play.start script goal progress).after moments n).context
      ((Play.start script goal progress).notes moments n) := by
  induction n with
  | zero => exact at_start progress hi
  | succ n ih =>
    obtain ⟨hscript, hgoal⟩ := (Play.start script goal progress).after_same moments n
    have hfollows := Play.follows_notes hm (Play.start script goal progress) n
    have hstep := Sound.at_advance (by rw [hscript, hgoal]; exact hs) hfollows
      (by rw [hgoal]; exact ih)
    rw [hgoal] at hstep
    exact hstep

end PadScript
