import Mathlib.Algebra.Group.Int.Defs
import Mathlib.Algebra.Group.Nat.Defs
import PadScript.Host
import PadScript.Proofs.Play.Ending
import PadScript.Proofs.Play.Published
import PadScript.Proofs.Script.Numbering
import PadScript.Proofs.Script.Standard

/-!
# The hit cursor

Starts and hits move the hit cursor on, a press that starts a timer wakes it up, and the
end of a pass puts it back. So where it stands while a step is performed depends on the
steps before it in the script and on nothing else (`Script.cursor`), whatever the clock and
the requests are: no pass, and no step that was cut short, leaves a trace in it. With the
other indices that is all an observer reads of a play (`published_play`).
-/

namespace PadScript

-- ---------------------------------------------------------------------------
-- Where a script brings the cursor
-- ---------------------------------------------------------------------------

namespace Command

def isStart : Command → Bool
  | start _ => true
  | press _ | wait _ | hit _ | extension _ => false

def isHit : Command → Bool
  | hit _ => true
  | press _ | wait _ | start _ | extension _ => false

def isWakingPress : Command → Bool
  | press p => p.start.isSome
  | wait _ | start _ | hit _ | extension _ => false

/-- Where a command that is not cut short brings the cursor. -/
def moves (command : Command) (cursor : Int) : Int :=
  if command.isStart || command.isHit then cursor + 1
  else if command.isWakingPress then max cursor 0
  else cursor

end Command

namespace Script

variable {script : Script} {step : Nat} {command : Command}

def startsBefore (script : Script) (step : Nat) : Nat :=
  (script.commands.take step).countP Command.isStart

def hitsBefore (script : Script) (step : Nat) : Nat :=
  (script.commands.take step).countP Command.isHit

/-- A press that starts a timer stands before the step, and before every start and hit. -/
def wokenBefore (script : Script) (step : Nat) : Bool :=
  (List.range step).any fun earlier => script.commands[earlier]?.any Command.isWakingPress &&
    script.startsBefore earlier == 0 && script.hitsBefore earlier == 0

def cursor (script : Script) (step : Nat) : Int :=
  script.startsBefore step + script.hitsBefore step + (script.wokenBefore step).toNat - 1

theorem cursor_zero (script : Script) : script.cursor 0 = -1 := rfl

theorem cursor_succ (h : script.commands[step]? = some command) :
    script.cursor (step + 1) = command.moves (script.cursor step) := by
  have hstarts : script.startsBefore (step + 1) =
      script.startsBefore step + command.isStart.toNat := by
    cases hc : command.isStart <;> simp [startsBefore, List.take_add_one, h, hc]
  have hhits : script.hitsBefore (step + 1) = script.hitsBefore step + command.isHit.toNat := by
    cases hc : command.isHit <;> simp [hitsBefore, List.take_add_one, h, hc]
  have hwoken : script.wokenBefore (step + 1) = (script.wokenBefore step ||
      (command.isWakingPress && script.startsBefore step == 0 && script.hitsBefore step == 0)) := by
    simp [wokenBefore, List.range_succ, h]
  have hone : (script.wokenBefore step).toNat ≤ 1 := Bool.toNat_le _
  rw [cursor, hstarts, hhits, hwoken]
  cases command with
  | start | hit =>
    simp [Command.moves, Command.isStart, Command.isHit, Command.isWakingPress, cursor]
    omega
  | wait | extension =>
    simp [Command.moves, Command.isStart, Command.isHit, Command.isWakingPress, cursor]
  | press press =>
    have hmoves (cursor : Int) : (Command.press press).moves cursor =
        if (Command.press press).isWakingPress then max cursor 0 else cursor := rfl
    rw [hmoves, cursor]
    cases (Command.press press).isWakingPress with
    | false => simp [Command.isStart, Command.isHit]
    | true =>
      -- Before every start and hit the cursor is idle, or a press has woken it up already.
      by_cases hnone : script.startsBefore step = 0 ∧ script.hitsBefore step = 0
      · simp [hnone.1, hnone.2, Command.isStart, Command.isHit]
        omega
      · have hmoved : (script.startsBefore step == 0 && script.hitsBefore step == 0) = false := by
          simpa using hnone
        simp [hmoved, Command.isStart, Command.isHit]
        omega

theorem cursor_ge (script : Script) (step : Nat) : -1 ≤ script.cursor step := by
  unfold cursor
  omega

theorem cursor_lt (h : step ≤ script.steps.size) : script.cursor step < step := by
  induction step with
  | zero =>
    rw [cursor_zero]
    decide
  | succ step ih =>
    have hlt : step < script.commands.length := by
      rw [commands, List.length_map, Array.length_toList]
      exact h
    have hstep := ih (Nat.le_of_succ_le h)
    rw [cursor_succ (List.getElem?_eq_getElem hlt), Command.moves]
    split
    · omega
    · split <;> omega

end Script
-- ---------------------------------------------------------------------------
-- Actions that move it
-- ---------------------------------------------------------------------------

theorem toInt_add_one_of_lt {i : Int32} (h : i.toInt < 2 ^ 31 - 1) :
    (i + 1).toInt = i.toInt + 1 := by
  have hone : (1 : Int32).toInt = 1 := by decide
  have hge := Int32.le_toInt i
  rw [Int32.toInt_add, hone]
  exact Int.bmod_eq_of_le (by omega) (by omega)

theorem Context.toInt_hit_startTimer {context : Context} (h : -1 ≤ context.progress.hit.toInt)
    (label : Label) (now : Time) :
    (context.startTimer label now).progress.hit.toInt = max context.progress.hit.toInt 0 := by
  have hidle : Progress.idleIndex.toInt = -1 := by decide
  simp only [startTimer, Progress.activateHits]
  split
  · rename_i heq
    have hhit : context.progress.hit = Progress.idleIndex := heq
    rw [hhit, hidle]
    rfl
  · rename_i hne
    have hhit : context.progress.hit.toInt ≠ -1 := fun he =>
      hne (Int32.toInt_inj.1 (he.trans hidle.symm))
    change context.progress.hit.toInt = _
    omega

def Action.keepsHit : Action → Bool
  | .nextHit | .startTimer _ => false
  | .write _ | .restartTimer _ | .restartDelay | .store _ | .log _ | .signal _ => true

theorem Action.hit_perform {action : Action} (h : action.keepsHit = true) (context : Context)
    (now : Time) : (context.perform action now).progress.hit = context.progress.hit := by
  cases action with
  | nextHit | startTimer label => cases h
  | _ => rfl

namespace Note

def movesHit (note : Note) : Bool :=
  match note.deed with
  | .performed action => !action.keepsHit
  | _ => false

def awaitsTimer (note : Note) : Bool :=
  match note.deed with
  | .waitBegun (.timer ..) => true
  | _ => false

end Note

def Moved (pass step : Nat) (notes : List Note) : Prop :=
  ∃ note ∈ notes, note.place = (pass, step) ∧ note.movesHit = true

def MovedBefore (pass step : Nat) (notes : List Note) : Prop :=
  ∀ note ∈ notes, note.movesHit = true → note.pass < pass ∨ note.pass = pass ∧ note.step < step

namespace MovedBefore

variable {pass step : Nat} {notes : List Note} {note : Note}

theorem concat (h : MovedBefore pass step notes) (hnote : note.movesHit = true →
    note.pass < pass ∨ note.pass = pass ∧ note.step < step) :
    MovedBefore pass step (notes ++ [note]) := by
  intro seen hseen hmoves
  rcases List.mem_append.1 hseen with hseen | hseen
  · exact h seen hseen hmoves
  · obtain rfl := List.mem_singleton.1 hseen
    exact hnote hmoves

theorem quiet (h : MovedBefore pass step notes) (hquiet : note.movesHit = false) :
    MovedBefore pass step (notes ++ [note]) := by
  apply h.concat
  intro hmoves
  cases hquiet.symm.trans hmoves

theorem next (h : MovedBefore pass step notes) : MovedBefore pass (step + 1) notes := by
  intro note hn hmoves
  apply (h note hn hmoves).imp_right
  rintro ⟨hpass, hstep⟩
  exact ⟨hpass, Nat.lt_succ_of_lt hstep⟩

theorem nextPass (h : MovedBefore pass step notes) : MovedBefore (pass + 1) 0 notes := by
  intro note hn hmoves
  rcases h note hn hmoves with hlt | ⟨rfl, -⟩
  · exact .inl (Nat.lt_succ_of_lt hlt)
  · exact .inl (Nat.lt_succ_self _)

theorem not_moved (h : MovedBefore pass step notes) : ¬ Moved pass step notes := by
  rintro ⟨note, hn, hplace, hmoves⟩
  obtain ⟨rfl, rfl⟩ := Prod.mk.inj hplace
  rcases h note hn hmoves with hlt | ⟨-, hlt⟩
  · exact Nat.lt_irrefl _ hlt
  · exact Nat.lt_irrefl _ hlt

end MovedBefore

namespace Routine

variable {α : Type}

/-- Leaves the hit cursor alone, and waits for no timer. -/
def Still : Routine α → Prop
  | done _ | fail _ => True
  | act action next => action.keepsHit = true ∧ next.Still
  | check next => ∀ answer, (next answer).Still
  | pause p next => (∀ label ms, p ≠ .timer label ms) ∧ ∀ answer, (next answer).Still
  | consult next => ∀ context now, (next context now).Still

theorem Only.still {r : Routine α}
    (h : r.Only (·.keepsHit = true) fun p => ∀ label ms, p ≠ .timer label ms) : r.Still := by
  induction r with
  | done | fail => trivial
  | act action next ih => exact ⟨h.1, ih h.2⟩
  | check next ih => exact fun answer => ih answer (h answer)
  | pause p next ih => exact ⟨h.1, fun answer => ih answer (h.2 answer)⟩
  | consult next ih => exact fun context now => ih context now (h context now)

theorem still_delay (ms : UInt32) : (delay ms).Still := ⟨by simp, fun _ => trivial⟩

theorem still_hold (buttons : Buttons) (ms : UInt32) : (hold buttons ms).Still :=
  (only_hold (fun _ => rfl) (by simp) buttons ms).still

theorem still_holdEach (holds : List (Buttons × UInt32 × UInt32)) : (holdEach holds).Still :=
  (only_holdEach (fun _ => rfl) (by simp) holds).still

theorem still_reset : SoftReset.routine.Still := by
  rw [SoftReset.routine_eq]
  intro context now
  exact ⟨rfl, rfl, still_holdEach _⟩

end Routine

-- ---------------------------------------------------------------------------
-- The cursor during a step
-- ---------------------------------------------------------------------------

/-- The cursor is where the steps before have brought it, or where this one brings it if the
step has moved it, unless that is too far for an index. -/
structure AtCursor (script : Script) (pass step : Nat) (moved : Bool) (context : Context)
    (notes : List Note) : Prop where
  hit : script.cursor (if moved then step + 1 else step) < 2 ^ 31 →
    context.progress.hit.toInt = script.cursor (if moved then step + 1 else step)
  moved_iff : Moved pass step notes ↔ moved = true
  earlier : MovedBefore pass (step + 1) notes
  waits : ∀ note, notes.getLast? = some note → note.awaitsTimer = true → moved = false

section AtCursor

variable {script : Script} {pass step : Nat} {moved : Bool} {context other : Context}
  {notes more : List Note} {note : Note}

theorem AtCursor.quiet (h : AtCursor script pass step moved context notes)
    (hhit : other.progress.hit = context.progress.hit) (hmoves : note.movesHit = false)
    (hwaits : note.awaitsTimer = true → moved = false) :
    AtCursor script pass step moved other (notes ++ [note]) where
  hit hlt := by rw [hhit, h.hit hlt]
  moved_iff := by
    rw [← h.moved_iff]
    simp [Moved, or_and_right, exists_or, hmoves]
  earlier := h.earlier.quiet hmoves
  waits := by
    intro last hlast hl
    obtain rfl : note = last := by simpa using hlast
    exact hwaits hl

theorem AtCursor.move (h : AtCursor script pass step moved context notes)
    (hhit : script.cursor (step + 1) < 2 ^ 31 →
      other.progress.hit.toInt = script.cursor (step + 1))
    (hplace : note.place = (pass, step)) (hmoves : note.movesHit = true) :
    AtCursor script pass step true other (notes ++ [note]) where
  hit := hhit
  moved_iff := iff_of_true ⟨note, by simp, hplace, hmoves⟩ rfl
  earlier := by
    obtain ⟨rfl, rfl⟩ := Prod.mk.inj hplace
    apply h.earlier.concat
    intro _
    exact .inr ⟨rfl, Nat.lt_succ_self _⟩
  waits := by
    intro last hlast hl
    obtain rfl : note = last := by simpa using hlast
    -- A note of a move is not one of a wait.
    unfold Note.movesHit at hmoves
    unfold Note.awaitsTimer at hl
    split at hmoves <;> simp_all

def pointing (script : Script) (pass step : Nat) : Promise :=
  ⟨pass, step, fun context notes => ∃ moved, AtCursor script pass step moved context notes,
    fun _ => True⟩

theorem Routine.Still.meets {α : Type} {r : Routine α} (hr : r.Still)
    (h : AtCursor script pass step moved context notes) :
    r.Meets (pointing script pass step) (fun _ => AtCursor script pass step moved) context
      notes := by
  induction r generalizing context notes with
  | done result => exact ⟨⟨moved, h⟩, h⟩
  | fail fault => exact ⟨⟨moved, h⟩, trivial⟩
  | act action next ih =>
    refine ⟨⟨moved, h⟩, fun outside _ => ⟨fun _ _ => trivial, ih hr.2 ?_⟩⟩
    have hquiet := hr.1
    refine h.quiet (Action.hit_perform hquiet context _) ?_ ?_ <;>
      simp [Promise.note, Note.movesHit, Note.awaitsTimer, hquiet]
  | check next ih =>
    refine ⟨⟨moved, h⟩, fun outside _ => ih _ (hr _) ?_⟩
    exact h.quiet rfl rfl (by simp [Promise.note, Note.awaitsTimer])
  | pause p next ih =>
    obtain ⟨hp, hr⟩ := hr
    cases p with
    | timer label ms => exact absurd rfl (hp label ms)
    | delay ms fresh =>
      refine ⟨⟨moved, h⟩, fun begun _ => ?_⟩
      have hbegun : AtCursor script pass step moved
          (context.beginPause (.delay ms fresh) begun.now).1
          (notes ++ [(pointing script pass step).note begun (.waitBegun (.delay ms fresh))]) :=
        h.quiet rfl rfl (by simp [Promise.note, Note.awaitsTimer])
      refine ⟨⟨moved, hbegun⟩, fun waited _ _ => ih _ (hr _) ?_⟩
      exact hbegun.quiet rfl rfl (by simp [Promise.note, Note.awaitsTimer])
  | consult next ih => exact ⟨⟨moved, h⟩, fun outside _ => ih _ _ (hr _ _) h⟩

/-- Between the steps the cursor is where the next one expects it, unless a stop was
requested; no step that is to come has moved it. -/
structure BeforeStep (script : Script) (pass step : Nat) (context : Context) (notes : List Note) :
    Prop where
  hit : ¬ StopSeen notes → script.cursor step < 2 ^ 31 →
    context.progress.hit.toInt = script.cursor step
  earlier : MovedBefore pass step notes
  last : ∀ before, step = before + 1 → ∃ moved, AtCursor script pass before moved context notes

theorem AtCursor.leave (h : AtCursor script pass step moved context notes)
    (hdone : moved = true ∨ StopSeen notes ∨ script.cursor (step + 1) = script.cursor step) :
    BeforeStep script pass (step + 1) context notes where
  hit := by
    intro hs hlt
    rcases hdone with rfl | hstop | heq
    · exact h.hit hlt
    · exact absurd hstop hs
    · cases moved with
      | true => exact h.hit hlt
      | false =>
        rw [heq] at hlt ⊢
        exact h.hit hlt
  earlier := h.earlier
  last := by
    rintro before ⟨⟩
    exact ⟨moved, h⟩

theorem BeforeStep.begin (h : BeforeStep script pass step context notes)
    (hs : ¬ StopSeen notes) (hhit : other.progress.hit = context.progress.hit)
    (hdeed : note.deed = .stepBegun) :
    AtCursor script pass step false other (notes ++ [note]) where
  hit := by
    rw [hhit]
    exact h.hit hs
  moved_iff := iff_of_false (h.earlier.quiet (by rw [Note.movesHit, hdeed])).not_moved (by simp)
  earlier := h.earlier.next.quiet (by rw [Note.movesHit, hdeed])
  waits _ _ _ := rfl

-- ---------------------------------------------------------------------------
-- Commands
-- ---------------------------------------------------------------------------

theorem move_meets (h : AtCursor script pass step moved context notes) (action : Action)
    (hmoves : action.keepsHit = false)
    (hhit : ∀ now, script.cursor (step + 1) < 2 ^ 31 →
      (context.perform action now).progress.hit.toInt = script.cursor (step + 1)) :
    (Routine.perform action).Meets (pointing script pass step)
      (fun _ => AtCursor script pass step true) context notes := by
  refine ⟨⟨moved, h⟩, fun outside _ => ⟨fun _ _ => trivial, ?_⟩⟩
  have hmoved : AtCursor script pass step true (context.perform action outside.now)
      (notes ++ [(pointing script pass step).note outside (.performed action)]) :=
    h.move (hhit _) rfl (by simp [Promise.note, Note.movesHit, hmoves])
  exact ⟨⟨true, hmoved⟩, hmoved⟩

theorem startTimer?_points (h : AtCursor script pass step true context notes)
    (hawake : 0 ≤ script.cursor (step + 1)) (start : Option Label) :
    (Routine.startTimer? start).Meets (pointing script pass step)
      (fun _ => AtCursor script pass step true) context notes := by
  cases start with
  | none => exact ⟨⟨true, h⟩, h⟩
  | some label =>
    refine move_meets h (.startTimer label) rfl fun now hlt => ?_
    have hhit : context.progress.hit.toInt = script.cursor (step + 1) := h.hit hlt
    change (context.startTimer label now).progress.hit.toInt = _
    rw [Context.toInt_hit_startTimer (by omega)]
    omega

theorem nextHit_points (h : AtCursor script pass step false context notes)
    (hnext : script.cursor (step + 1) = script.cursor step + 1) :
    (Routine.perform .nextHit).Meets (pointing script pass step)
      (fun _ => AtCursor script pass step true) context notes := by
  refine move_meets h .nextHit rfl fun now hlt => ?_
  rw [hnext] at hlt
  have hhit : context.progress.hit.toInt = script.cursor step :=
    h.hit (show script.cursor step < 2 ^ 31 by omega)
  change (context.progress.hit + 1).toInt = _
  rw [toInt_add_one_of_lt (by omega), hhit, hnext]

theorem hit_points {hit : Hit} (hc : script.commands[step]? = some (.hit hit))
    (h : AtCursor script pass step false context notes) :
    hit.routine.Meets (pointing script pass step)
      (fun _ => BeforeStep script pass (step + 1)) context notes := by
  have hnext : script.cursor (step + 1) = script.cursor step + 1 := Script.cursor_succ hc
  have hge := script.cursor_ge step
  rw [Hit.routine_eq]
  refine ⟨⟨false, h⟩, fun begun _ => ?_⟩
  have hbegun : AtCursor script pass step false context
      (notes ++ [(pointing script pass step).note begun
        (.waitBegun (.timer hit.label hit.dueMs))]) :=
    h.quiet rfl rfl fun _ => rfl
  refine ⟨⟨false, hbegun⟩, fun waited _ _ => ?_⟩
  have hwaited : AtCursor script pass step false context
      (notes ++ [(pointing script pass step).note begun
        (.waitBegun (.timer hit.label hit.dueMs))] ++
        [(pointing script pass step).note waited .waitOver]) :=
    hbegun.quiet rfl rfl fun _ => rfl
  cases hs : waited.stopRequested with
  | true =>
    -- The step is cut short and no other follows.
    refine ⟨⟨false, hwaited⟩, hwaited.leave (.inr (.inl ?_))⟩
    simp [Promise.note, hs]
  | false =>
    -- From here on the step has moved the cursor, and whatever it does leaves it there.
    refine Routine.Meets.bind ((nextHit_points hwaited hnext).mono ?_)
    intro _ context notes hmoved
    refine Routine.Meets.bind ((startTimer?_points hmoved (by omega) hit.start).mono ?_)
    intro _ context notes hmoved
    refine Routine.Meets.bind (((Routine.still_hold _ _).meets hmoved).mono ?_)
    intro _ context notes hmoved
    exact ⟨⟨true, hmoved⟩, hmoved.leave (.inl rfl)⟩

theorem press_points {press : Press} (hc : script.commands[step]? = some (.press press))
    (h : AtCursor script pass step false context notes) :
    press.routine.Meets (pointing script pass step)
      (fun _ => BeforeStep script pass (step + 1)) context notes := by
  have hnext := Script.cursor_succ hc
  obtain ⟨groups, durationMs, intervalMs, start⟩ := press
  cases start with
  | none =>
    refine ((Routine.still_holdEach _).meets h).mono fun _ context notes h => ?_
    exact h.leave (.inr (.inr hnext))
  | some label =>
    have hwaking : script.cursor (step + 1) = max (script.cursor step) 0 := hnext
    have hge := script.cursor_ge step
    refine Routine.Meets.bind ((move_meets h (.startTimer label) rfl fun now hlt => ?_).mono ?_)
    · have hhit : context.progress.hit.toInt = script.cursor step :=
        h.hit (show script.cursor step < 2 ^ 31 by omega)
      change (context.startTimer label now).progress.hit.toInt = _
      rw [Context.toInt_hit_startTimer (by omega), hhit, hwaking]
    · intro _ context notes hmoved
      refine ((Routine.still_holdEach _).meets hmoved).mono fun _ context notes hmoved => ?_
      exact hmoved.leave (.inl rfl)

/-- Whatever cuts it short, a standard command leaves the cursor as the next one expects it. -/
theorem command_points {command : Command} (hc : script.commands[step]? = some command)
    (hstandard : command.Standard) (h : AtCursor script pass step false context notes) :
    command.routine.Meets (pointing script pass step)
      (fun _ => BeforeStep script pass (step + 1)) context notes := by
  cases command with
  | press press => exact press_points hc h
  | hit hit => exact hit_points hc h
  | wait wait =>
    refine Routine.Meets.bind (((Routine.still_delay _).meets h).mono fun _ context notes h => ?_)
    exact ⟨⟨false, h⟩, h.leave (.inr (.inr (Script.cursor_succ hc)))⟩
  | extension routine =>
    obtain rfl : routine = SoftReset.routine := hstandard
    refine (Routine.still_reset.meets h).mono fun _ context notes h => ?_
    exact h.leave (.inr (.inr (Script.cursor_succ hc)))
  | start start =>
    have hnext : script.cursor (step + 1) = script.cursor step + 1 := Script.cursor_succ hc
    have hdone (context : Context) (notes : List Note)
        (h : AtCursor script pass step false context notes) :
        (Routine.perform .nextHit).Meets (pointing script pass step)
          (fun _ => BeforeStep script pass (step + 1)) context notes :=
      (nextHit_points h hnext).mono fun _ context notes hmoved => hmoved.leave (.inl rfl)
    obtain ⟨_ | label⟩ := start
    · exact hdone context notes h
    · have hstill : (Routine.perform (.restartTimer label)).Still := ⟨rfl, trivial⟩
      exact Routine.Meets.bind ((hstill.meets h).mono fun _ => hdone)

end AtCursor

-- ---------------------------------------------------------------------------
-- Passes
-- ---------------------------------------------------------------------------

def cursorOutline (script : Script) : Outline where
  beforePass pass context notes :=
    context.progress.hit = Progress.idleIndex ∧ MovedBefore pass 0 notes
  beforeStep := BeforeStep script
  during pass step context notes := ∃ moved, AtCursor script pass step moved context notes
  afterLast _ _ := True
  ended _ _ := True
  aborted _ := True

section Passes

variable {script : Script} {goal : Goal} {pass step : Nat} {context : Context} {notes : List Note}

theorem cursorOutline_afterPass (h : MovedBefore pass step notes) :
    (cursorOutline script).afterPass goal pass
      { context with progress := context.progress.endPass } notes := by
  cases goal with
  | once => trivial
  | repeated count => exact ⟨rfl, h.nextPass⟩

theorem beforeStep_zero (hidle : context.progress.hit = Progress.idleIndex)
    (h : MovedBefore pass 0 notes) : BeforeStep script pass 0 context notes where
  hit _ _ := by
    rw [hidle, Script.cursor_zero]
    rfl
  earlier := h
  last before h := by cases h

theorem cursorOutline_sound (hs : script.Standard) :
    (cursorOutline script).Sound script goal where
  enough _ _ := trivial
  noPass _ _ _ := trivial
  beginPass := by
    rintro pass context notes outside - - - ⟨hidle, h⟩ shown
    exact beforeStep_zero hidle (h.quiet rfl)
  beginStep := by
    intro pass index step context notes outside hstep hf hstop h
    have hc : script.commands[index]? = some step.command := by simp [Script.commands, hstep]
    refine command_points hc (hs.each _ (List.mem_of_getElem? hc)) ?_
    exact h.begin (hf.not_stopSeen hstop) rfl rfl
  noStep := by
    intro pass index context notes outside _ _ _ h
    exact cursorOutline_afterPass (h.earlier.quiet rfl)
  endPass _ h := cursorOutline_afterPass h.earlier
  finish _ _ := trivial

theorem cursorOutline_initially (progress : Progress) :
    (cursorOutline script).initially goal { progress := progress.reset } [] := by
  cases goal with
  | once => exact beforeStep_zero rfl (by simp [MovedBefore])
  | repeated count => exact ⟨rfl, by simp [MovedBefore]⟩

end Passes

-- ---------------------------------------------------------------------------
-- The pass
-- ---------------------------------------------------------------------------

def Goal.shown : Goal → Nat → Int
  | once, _ => -1
  | repeated count, pass => if 0 ≤ count then pass else -1

def Phase.pass? : Phase → Option Nat
  | atStep pass _ | acting pass _ _ | waiting pass _ _ _ => some pass
  | atPass _ | ending | finished _ => none

namespace Play

variable {play next : Play} {moment : Moment}

def ShowsPass (play : Play) : Prop :=
  ∀ pass, play.phase.pass? = some pass ∨ play.goal = .once →
    play.progress.pass.toInt = play.goal.shown pass

theorem showsPass_start (script : Script) (goal : Goal) (progress : Progress) :
    (start script goal progress).ShowsPass := by
  intro pass hpass
  cases goal with
  | once => rfl
  | repeated count => rcases hpass with hpass | hpass <;> cases hpass

theorem ShowsPass.congr (h : play.ShowsPass) (hgoal : next.goal = play.goal)
    (hpass : next.progress.pass = play.progress.pass)
    (hphase : ∀ pass, next.phase.pass? = some pass → play.phase.pass? = some pass) :
    next.ShowsPass := by
  intro pass hnext
  rw [hpass, hgoal]
  refine h pass ?_
  rw [hgoal] at hnext
  exact hnext.imp_left (hphase pass)

theorem ShowsPass.finish (result : Except Fault Outcome) : (play.finish result).ShowsPass := by
  intro pass hpass
  rcases hpass with hpass | hpass
  · cases hpass
  · rw [hpass]
    rfl

theorem ShowsPass.endPass (h : play.ShowsPass) (pass : Nat) : (play.endPass pass).ShowsPass := by
  refine h.congr rfl rfl fun other hother => ?_
  unfold Play.endPass at hother
  cases hgoal : play.goal <;> simp [hgoal, Phase.pass?] at hother

theorem ShowsPass.beginPass (h : play.ShowsPass) (pass : Nat) :
    (play.beginPass pass moment).ShowsPass := by
  obtain ⟨script, goal, context, phase⟩ := play
  cases goal with
  | once => exact fun other _ => h other (.inr rfl)
  | repeated count =>
    simp only [Play.beginPass]
    split
    · refine h.congr rfl rfl fun other hother => ?_
      cases hother
    · rename_i hbegins
      intro other hother
      obtain rfl : pass = other := by simpa [Phase.pass?] using hother
      simp only [Goal.shown, Play.progress, Progress.setPass]
      -- A pass that begins is below the count, so an index can hold it.
      by_cases hcount : 0 ≤ count
      · have hpass : (pass : Int) < count.toInt := by
          by_contra hle
          exact hbegins (.inl ⟨hcount, Int.not_lt.1 hle⟩)
        have hlt := count.toInt_lt
        rw [if_pos hcount, if_neg (Int32.not_lt.2 hcount)]
        exact Int32.toInt_ofNat_of_lt (by omega)
      · rw [if_neg hcount, if_pos (Int32.not_le.1 hcount)]
        rfl

end Play

theorem Context.pass_perform (context : Context) (action : Action) (now : Time) :
    (context.perform action now).progress.pass = context.progress.pass := by
  cases action with
  | startTimer label =>
    simp only [perform, startTimer, Progress.activateHits]
    split <;> rfl
  | _ => rfl

namespace Play

variable {play next : Play} {moment : Moment}

theorem ShowsPass.advance (h : play.ShowsPass) (moment : Moment) :
    (play.advance moment).1.ShowsPass := by
  obtain ⟨script, goal, context, phase⟩ := play
  cases phase with
  | atPass pass => exact h.beginPass pass
  | atStep pass step =>
    simp only [Play.advance, Play.beginStep]
    split
    · exact h.endPass pass
    · split
      · exact h.endPass pass
      · exact h.congr rfl rfl fun _ hpass => hpass
  | acting pass step routine =>
    cases routine with
    | done result => exact h.congr rfl rfl fun _ hpass => hpass
    | fail fault => exact .finish _
    | check next => exact h.congr rfl rfl fun _ hpass => hpass
    | consult next => exact h.congr rfl rfl fun _ hpass => hpass
    | pause p next => cases p <;> exact h.congr rfl rfl fun _ hpass => hpass
    | act action next =>
      cases action with
      | write bytes =>
        simp only [Play.advance, Play.act]
        split
        · exact .finish _
        · exact h.congr rfl rfl fun _ hpass => hpass
      | startTimer label =>
        exact h.congr rfl (context.pass_perform (.startTimer label) moment.now) fun _ hpass => hpass
      | _ => exact h.congr rfl rfl fun _ hpass => hpass
  | waiting pass step deadline next =>
    simp only [Play.advance]
    split
    · exact h.congr rfl rfl fun _ hpass => hpass
    · exact h
  | ending => exact .finish _
  | finished result => exact h

theorem showsPass_after (script : Script) (goal : Goal) (progress : Progress)
    (moments : Nat → Moment) (n : Nat) :
    ((start script goal progress).after moments n).ShowsPass := by
  induction n with
  | zero => exact showsPass_start script goal progress
  | succ n ih => exact ih.advance (moments n)

-- ---------------------------------------------------------------------------
-- What an observer reads
-- ---------------------------------------------------------------------------

/-- The published indices are those of this step in this pass, and the cursor is where the
steps before have brought it until the step itself moves it on. -/
structure ShowsStep (play : Play) (notes : List Note) (pass step : Nat) : Prop where
  command : play.progress.command.toInt = step
  line : ∃ begun, play.script.steps[step]? = some begun ∧ play.progress.line.toInt = begun.line
  shown : play.progress.pass.toInt = play.goal.shown pass
  hit : ¬ Moved pass step notes → play.progress.hit.toInt = play.script.cursor step
  moved : Moved pass step notes → play.progress.hit.toInt = play.script.cursor (step + 1)

end Play

theorem Outline.exists_atCursor {script : Script} {goal : Goal} {phase : Phase}
    {context : Context} {notes : List Note} {pass step : Nat}
    (h : (cursorOutline script).At goal phase context notes) (hpass : phase.pass? = some pass)
    (hstep : phase.step? = some step) : ∃ moved, AtCursor script pass step moved context notes := by
  cases phase with
  | atStep pass' next =>
    obtain rfl := Option.some.inj hpass
    cases next with
    | zero => cases hstep
    | succ step' =>
      obtain rfl := Option.some.inj hstep
      exact BeforeStep.last h step' rfl
  | acting pass' step' routine =>
    obtain rfl := Option.some.inj hpass
    obtain rfl := Option.some.inj hstep
    exact Routine.Meets.always h
  | waiting pass' step' deadline next =>
    obtain rfl := Option.some.inj hpass
    obtain rfl := Option.some.inj hstep
    exact h.1
  | atPass | ending | finished => cases hpass

theorem Play.atCursor_after {script : Script} (hs : script.Standard) (goal : Goal)
    (progress : Progress) {moments : Nat → Moment} (hm : Steady moments) (n : Nat)
    {pass step : Nat}
    (hpass : ((start script goal progress).after moments n).phase.pass? = some pass)
    (hstep : ((start script goal progress).after moments n).phase.step? = some step) :
    ∃ moved, AtCursor script pass step moved
      ((start script goal progress).after moments n).context
      ((start script goal progress).notes moments n) := by
  have hsound : (cursorOutline script).Sound script goal := cursorOutline_sound hs
  have hat := hsound.at_after (cursorOutline_initially progress) hm n
  exact Outline.exists_atCursor hat hpass hstep

theorem size_le_of_ofLines {registry : Registry} {source : List String} {script : Script}
    (hs : Script.ofLines registry source = .ok script) : script.steps.size ≤ source.length := by
  have hlines := congrArg List.length (numbered_ofLines hs).line
  rw [List.length_map, Array.length_toList] at hlines
  rw [hlines, commandPositions, List.length_map, ← List.length_zipIdx (l := source)]
  exact List.length_filter_le _ _

/-- Whatever the clock and the requests are, an observer reads of a play which step of which
pass it is at, with its line, and where the steps before have brought the hit cursor, which is
the same in every pass. However a play ends, also when its thread breaks down, nothing of it
stays published. -/
theorem published_play {registry : Registry} (hr : registry.Standard) {source : List String}
    {script : Script} (hs : Script.ofLines registry source = .ok script)
    (hlines : source.length < 2 ^ 31) (goal : Goal) (progress : Progress)
    {moments : Nat → Moment} (hm : Steady moments) (n : Nat) {play : Play}
    (hplay : (Play.start script goal progress).after moments n = play) :
    (∀ pass step, play.phase.pass? = some pass → play.phase.step? = some step →
      play.ShowsStep ((Play.start script goal progress).notes moments n) pass step) ∧
    (∀ result, play.result? = some result → play.progress.Idle) ∧
    ∀ (σ : Type) (host next : Host σ) (stopRequested : Bool) (output : σ),
      host.active = some ⟨stopRequested, .playing output play⟩ → host.crash = some next →
      next.progress.Idle := by
  subst hplay
  have hsize : script.steps.size < 2 ^ 31 := (size_le_of_ofLines hs).trans_lt hlines
  refine ⟨fun pass step hpass hstep => ?_, fun result => Play.idle_of_result? script goal progress,
    ?_⟩
  · obtain ⟨hscript, hgoal⟩ := (Play.start script goal progress).after_same moments n
    have hpublished := Play.published_after script goal progress moments n
    obtain ⟨begun, hcurrent⟩ := Option.isSome_iff_exists.1 (hpublished.known (by simp [hstep]))
    have hbegun : script.steps[step]? = some begun := by
      rwa [Play.current?, hstep, Option.bind_some, hscript] at hcurrent
    have hlt : step < script.steps.size := (Array.getElem?_eq_some_iff.1 hbegun).1
    obtain ⟨moved, hcursor⟩ :=
      Play.atCursor_after (Script.standard_of_ofLines hr hs) goal progress hm n hpass hstep
    refine ⟨?_, ⟨begun, by rw [hscript]; exact hbegun, ?_⟩, ?_, fun hmoved => ?_, fun hmoved => ?_⟩
    · have hindex := (numbered_ofLines hs).index step begun hbegun
      rw [hpublished.command, hcurrent, ← hindex]
      exact Int32.toInt_ofNat_of_lt (by omega)
    · obtain ⟨text, -, htext, -⟩ := line_of_mem_steps hs (Array.mem_of_getElem? hbegun)
      have hline : begun.line < source.length := (List.getElem?_eq_some_iff.1 htext).1
      rw [hpublished.line, hcurrent]
      exact Int32.toInt_ofNat_of_lt (hline.trans hlines)
    · exact Play.showsPass_after script goal progress moments n pass (.inl hpass)
    · rw [hcursor.moved_iff, Bool.not_eq_true] at hmoved
      subst hmoved
      have hcursorLt : script.cursor step < step := Script.cursor_lt hlt.le
      rw [hscript]
      exact hcursor.hit (show script.cursor step < 2 ^ 31 by omega)
    · rw [hcursor.moved_iff] at hmoved
      subst hmoved
      have hcursorLt : script.cursor (step + 1) < (step + 1 : Nat) := Script.cursor_lt hlt
      rw [hscript]
      exact hcursor.hit (show script.cursor (step + 1) < 2 ^ 31 by omega)
  · intro σ host next stopRequested output hactive hcrash
    obtain ⟨active, hsome, hcrash⟩ := Option.bind_eq_some_iff.1 hcrash
    obtain rfl := Option.some.inj (hactive.symm.trans hsome)
    simp only at hcrash
    split at hcrash
    · cases hcrash
      exact Progress.idle_reset _
    · cases hcrash

def twice (timer : Label) : Script :=
  .ofEntries [(1, .press ⟨[Buttons.a], 1, 0, some timer⟩), (2, .start ⟨none⟩),
    (3, .hit ⟨.b, 1, timer, 1, none⟩)]

/-- In the second pass the hit that waits finds the cursor where it was in the first. -/
theorem published_play_twice :
    Script.ofLines .builtin ["# twice", "Press A -s=0 -d=1", "Start", "Hit B 1 -d=1"] =
        .ok (twice 0) ∧
      (twice 0).cursor 2 = 1 ∧
      (∃ play, (Play.start (twice 0) (.repeated 2) {}).after (Moment.ticks 100) 44 = play ∧
        play.deadline?.isSome = true ∧ play.progress.hit.toInt = 1 ∧
        play.ShowsStep ((Play.start (twice 0) (.repeated 2) {}).notes (Moment.ticks 100) 44) 1 2) ∧
      ((Play.start (twice 0) (.repeated 2) {}).after (Moment.ticks 100) 60).progress.Idle := by
  have hread : Script.ofLines .builtin
      ["# twice", "Press A -s=0 -d=1", "Start", "Hit B 1 -d=1"] = .ok (twice 0) := by rfl
  obtain ⟨hshows, -, -⟩ := published_play (.inl rfl) hread (by decide) (.repeated 2) {}
    (steady_ticks 100) 44 rfl
  obtain ⟨-, hidle, -⟩ := published_play (.inl rfl) hread (by decide) (.repeated 2) {}
    (steady_ticks 100) 60 rfl
  refine ⟨hread, by decide +kernel, ⟨_, rfl, by decide +kernel, by decide +kernel, ?_⟩, ?_⟩
  · exact hshows 1 2 (by decide +kernel) (by decide +kernel)
  · exact hidle (.ok .completed) (by decide +kernel)

end PadScript
