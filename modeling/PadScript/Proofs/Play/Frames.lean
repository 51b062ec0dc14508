import PadScript.Proofs.Play.Outline
import PadScript.Proofs.Script.Standard
import PadScript.Tool

/-!
# The frames of a play

Undisturbed, a pass of a standard script writes a frame for each set of buttons that
its commands hold, and the released frame after each. A request to stop may cut
that short between two holds and never inside one: whatever the clock and the
requests are, what a play has written when it ends is a number of whole presses
from the beginning of its passes (`finished_frames`), and it has completed only if
that is all of them.
-/

namespace PadScript

-- ---------------------------------------------------------------------------
-- Presses and their frames
-- ---------------------------------------------------------------------------

/-- The frames of presses, each followed by a release. -/
def strokes (presses : List Buttons) : List (List UInt8) :=
  presses.flatMap fun buttons => [buttons.frame, Buttons.released.frame]

@[simp] theorem strokes_nil : strokes [] = [] := rfl

@[simp] theorem strokes_append (presses more : List Buttons) :
    strokes (presses ++ more) = strokes presses ++ strokes more := List.flatMap_append

@[simp] theorem strokes_cons (buttons : Buttons) (rest : List Buttons) :
    strokes (buttons :: rest) = buttons.frame :: Buttons.released.frame :: strokes rest := rfl

theorem strokes_prefix {presses all : List Buttons} (h : presses <+: all) :
    strokes presses <+: strokes all := by
  obtain ⟨rest, rfl⟩ := h
  exact ⟨strokes rest, (strokes_append _ _).symm⟩

theorem length_strokes (presses : List Buttons) :
    (strokes presses).length = 2 * presses.length := by
  induction presses with
  | nil => rfl
  | cons buttons rest ih =>
    rw [strokes_cons, List.length_cons, List.length_cons, List.length_cons, ih]
    omega

theorem strokes_released {presses : List Buttons} {i : Nat} (h : i < presses.length) :
    (strokes presses)[2 * i + 1]? = some Buttons.released.frame := by
  induction presses generalizing i with
  | nil => simp at h
  | cons buttons rest ih =>
    cases i with
    | zero => rfl
    | succ i => exact ih (Nat.lt_of_succ_lt_succ h)

theorem getLast?_strokes {presses : List Buttons} {bytes : List UInt8}
    (h : (strokes presses).getLast? = some bytes) : bytes = Buttons.released.frame := by
  rcases List.eq_nil_or_concat presses with rfl | ⟨earlier, last, rfl⟩
  · cases h
  · simpa [eq_comm] using h

namespace Script

def presses (script : Script) : List Buttons := script.commands.flatMap Command.presses

def pressesOf (script : Script) (passes : Nat) : List Buttons :=
  (List.replicate passes script.presses).flatten

def pressesUpTo (script : Script) (passes steps : Nat) : List Buttons :=
  script.pressesOf passes ++ (script.commands.take steps).flatMap Command.presses

/-- The frames of so many passes that nobody stops. -/
def ideal (script : Script) (passes : Nat) : List (List UInt8) := strokes (script.pressesOf passes)

variable {script : Script} {passes steps : Nat}

theorem pressesOf_succ :
    script.pressesOf (passes + 1) = script.pressesOf passes ++ script.presses := by
  rw [pressesOf, List.replicate_succ', List.flatten_append, List.flatten_singleton, pressesOf]

theorem pressesOf_prefix {more : Nat} (h : passes ≤ more) :
    script.pressesOf passes <+: script.pressesOf more := by
  induction h with
  | refl => exact List.prefix_rfl
  | step _ ih =>
    rw [pressesOf_succ]
    exact ih.trans (List.prefix_append _ _)

theorem pressesUpTo_zero : script.pressesUpTo passes 0 = script.pressesOf passes := by
  simp [pressesUpTo]

theorem pressesUpTo_succ {step : Step} (h : script.steps[steps]? = some step) :
    script.pressesUpTo passes (steps + 1) =
      script.pressesUpTo passes steps ++ step.command.presses := by
  have hc : script.commands[steps]? = some step.command := by simp [commands, h]
  rw [pressesUpTo, List.take_add_one, hc, List.flatMap_append, ← List.append_assoc, ← pressesUpTo]
  simp

theorem pressesUpTo_prefix : script.pressesUpTo passes steps <+: script.pressesOf (passes + 1) := by
  refine ⟨(script.commands.drop steps).flatMap Command.presses, ?_⟩
  rw [pressesUpTo, List.append_assoc, ← List.flatMap_append, List.take_append_drop, pressesOf_succ,
    presses]

theorem pressesUpTo_of_size_le (h : script.steps.size ≤ steps) :
    script.pressesUpTo passes steps = script.pressesOf (passes + 1) := by
  rw [pressesUpTo, List.take_of_length_le (by simpa [commands] using h), pressesOf_succ, presses]

end Script

-- ---------------------------------------------------------------------------
-- What has been written
-- ---------------------------------------------------------------------------

/-- All of these presses have been written or, since a stop was requested, the first of them. -/
def Delivered (presses : List Buttons) (notes : List Note) : Prop :=
  ∃ done, done <+: presses ∧ written notes = strokes done ∧ (¬ StopSeen notes → done = presses)

def Rejected (script : Script) (notes : List Note) : Prop :=
  ∃ (passes : Nat) (earlier : List Note) (note : Note) (bytes : List UInt8),
    notes = earlier ++ [note] ∧ note.deed = .refused bytes ∧
      written earlier ++ [bytes] <+: script.ideal passes

section Delivered

variable {presses all : List Buttons} {notes more : List Note}

theorem Delivered.of_written (h : written notes = strokes presses) : Delivered presses notes :=
  ⟨presses, List.prefix_rfl, h, fun _ => rfl⟩

theorem Delivered.written_eq (h : Delivered presses notes) (hs : ¬ StopSeen notes) :
    written notes = strokes presses := by
  obtain ⟨done, -, hw, hall⟩ := h
  rw [hw, hall hs]

theorem Delivered.quiet (h : Delivered presses notes) (hw : written more = []) :
    Delivered presses (notes ++ more) := by
  obtain ⟨done, hd, hdone, hall⟩ := h
  refine ⟨done, hd, by simp [hdone, hw], fun hs => hall fun hstop => hs ?_⟩
  exact stopSeen_append.2 (.inl hstop)

theorem Delivered.cut (h : Delivered presses notes) (hp : presses <+: all) (hs : StopSeen notes) :
    Delivered all notes := by
  obtain ⟨done, hd, hw, -⟩ := h
  exact ⟨done, hd.trans hp, hw, fun hns => absurd hs hns⟩

end Delivered

-- ---------------------------------------------------------------------------
-- Commands
-- ---------------------------------------------------------------------------

/-- While a step is performed, nothing is promised but that a refused frame was next. -/
def pressing (script : Script) (pass step : Nat) : Promise :=
  ⟨pass, step, fun _ _ => True, Rejected script⟩

/-- The promise is kept at every moment, and when a frame is refused that is next in so
many passes. -/
structure Promise.Expects (promise : Promise) (script : Script) (passes : Nat) : Prop where
  always : ∀ context notes, promise.always context notes
  aborted : ∀ {notes note bytes}, note.deed = .refused bytes →
    written notes ++ [bytes] <+: script.ideal passes → promise.aborted (notes ++ [note])

theorem pressing_expects (script : Script) (pass step passes : Nat) :
    (pressing script pass step).Expects script passes where
  always _ _ := trivial
  aborted hn h := ⟨passes, _, _, _, rfl, hn, h⟩

section Commands

variable {promise : Promise} {script : Script} {passes : Nat} {context : Context}
  {notes : List Note} {before : List Buttons}

theorem quiet_meets (he : promise.Expects script passes) {action : Action}
    (hq : ∀ bytes, action ≠ .write bytes) {post : Unit → Context → List Note → Prop}
    (h : ∀ context note, note.wrote? = none → post () context (notes ++ [note])) :
    (Routine.perform action).Meets promise post context notes := by
  refine ⟨he.always _ _, fun outside _ =>
    ⟨fun bytes hb => absurd hb (hq bytes), he.always _ _, h _ _ ?_⟩⟩
  cases action with
  | write bytes => exact absurd rfl (hq bytes)
  | _ => rfl

theorem startTimer?_meets (he : promise.Expects script passes) {start : Option Label}
    {post : Unit → Context → List Note → Prop}
    (h : ∀ context more, written more = [] → post () context (notes ++ more)) :
    (Routine.startTimer? start).Meets promise post context notes := by
  cases start with
  | none => exact ⟨he.always _ _, by simpa using h context [] rfl⟩
  | some label =>
    exact quiet_meets he (by simp) fun context note hn => h context [note] (by simp [hn])

theorem hold_meets (he : promise.Expects script passes) {buttons : Buttons} {ms : UInt32}
    (hp : before ++ [buttons] <+: script.pressesOf passes) (hw : written notes = strokes before) :
    (Routine.hold buttons ms).Meets promise
      (fun stopped _ notes => written notes = strokes (before ++ [buttons]) ∧
        (stopped = true → StopSeen notes)) context notes := by
  have hideal := strokes_prefix hp
  rw [strokes_append, strokes_cons, strokes_nil] at hideal
  refine ⟨he.always _ _, fun outside hf => ⟨?_, he.always _ _, fun _ _ => ⟨he.always _ _,
    fun later _ _ => ⟨he.always _ _, fun _ _ => ⟨?_, he.always _ _, ?_, ?_⟩⟩⟩⟩⟩
  -- Either write may be refused: the press after all that was written before, and the
  -- release after the press.
  · rintro _ ⟨⟩
    refine he.aborted rfl (List.IsPrefix.trans ?_ hideal)
    simp [hw]
  · rintro _ ⟨⟩
    refine he.aborted rfl (List.IsPrefix.trans ?_ hideal)
    simp [hw, Promise.note, Note.wrote?]
  · simp [hw, Promise.note, Note.wrote?]
  · intro hstop
    simp [Promise.note, hstop]

theorem holdEach_meets (he : promise.Expects script passes)
    {holds : List (Buttons × UInt32 × UInt32)}
    (hp : before ++ holds.map (·.1) <+: script.pressesOf passes) (hd : Delivered before notes) :
    (Routine.holdEach holds).Meets promise
      (fun _ _ notes => Delivered (before ++ holds.map (·.1)) notes) context notes := by
  induction holds generalizing before context notes with
  | nil => exact ⟨he.always _ _, by simpa using hd⟩
  | cons hold rest ih =>
    obtain ⟨buttons, holdMs, pauseMs⟩ := hold
    rw [List.map_cons, List.append_cons] at hp ⊢
    rw [Routine.holdEach_cons]
    have hrest : before ++ [buttons] <+: before ++ [buttons] ++ rest.map (·.1) :=
      List.prefix_append _ _
    refine ⟨he.always _ _, fun outside hf => ?_⟩
    have hasked : Delivered before (notes ++ [promise.note outside .asked]) :=
      hd.quiet rfl
    cases hs : outside.stopRequested with
    | true =>
      -- Neither this press nor those after it are written.
      exact ⟨he.always _ _, hasked.cut ((List.prefix_append _ _).trans hrest)
        (by simp [Promise.note, hs])⟩
    | false =>
      -- Nobody has stopped the play before, so all that was due has been written.
      have hw := hasked.written_eq (by simpa [Promise.note, hs] using hf.not_stopSeen hs)
      refine Routine.Meets.bind ((hold_meets he (hrest.trans hp) hw).mono ?_)
      rintro stopped context notes ⟨hw, hstopped⟩
      cases stopped with
      | true => exact ⟨he.always _ _, (Delivered.of_written hw).cut hrest (hstopped rfl)⟩
      | false =>
        refine ⟨he.always _ _, fun begun _ => ⟨he.always _ _, fun waited _ _ => ?_⟩⟩
        have hpaused : Delivered (before ++ [buttons]) (notes ++
            [promise.note begun (.waitBegun (.delay pauseMs true))] ++
            [promise.note waited .waitOver]) :=
          ((Delivered.of_written hw).quiet rfl).quiet rfl
        cases ho : waited.stopRequested with
        | true => exact ⟨he.always _ _, hpaused.cut hrest (by simp [Promise.note, ho])⟩
        | false => exact ih hp hpaused

theorem hit_meets (he : promise.Expects script passes) {hit : Hit}
    (hp : before ++ [hit.button] <+: script.pressesOf passes)
    (hd : Delivered before notes) :
    hit.routine.Meets promise
      (fun _ _ notes => Delivered (before ++ [hit.button]) notes) context notes := by
  rw [Hit.routine_eq]
  refine ⟨he.always _ _, fun begun _ => ⟨he.always _ _, fun waited hf _ => ?_⟩⟩
  have hwaited : Delivered before (notes ++
      [promise.note begun (.waitBegun (.timer hit.label hit.dueMs))] ++
      [promise.note waited .waitOver]) := (hd.quiet rfl).quiet rfl
  cases hs : waited.stopRequested with
  | true => exact ⟨he.always _ _, hwaited.cut (List.prefix_append _ _) (by simp [Promise.note, hs])⟩
  | false =>
    have hw := hwaited.written_eq
      (by simpa [Promise.note, hs] using hf.not_stopSeen hs)
    refine Routine.Meets.bind (quiet_meets he (by simp) fun context note hn => ?_)
    refine Routine.Meets.bind (startTimer?_meets he fun context more hmore => ?_)
    refine Routine.Meets.bind ((hold_meets he hp (by simpa [hn, hmore] using hw)).mono ?_)
    rintro stopped context notes ⟨hw, -⟩
    exact ⟨he.always _ _, .of_written hw⟩

/-- A standard command that is begun on time writes its presses, or the first of them
once a stop is requested. -/
theorem command_meets (he : promise.Expects script passes) {command : Command}
    (hc : command.Standard)
    (hp : before ++ command.presses <+: script.pressesOf passes) (hd : Delivered before notes) :
    command.routine.Meets promise
      (fun _ _ notes => Delivered (before ++ command.presses) notes) context notes := by
  cases command with
  | press press =>
    have hpresses : (Command.press press).presses = (press.groups.map fun group =>
        (group, press.durationMs, press.intervalMs)).map (·.1) := by
      simp [Command.presses, Command.holds, Function.comp_def]
    rw [hpresses] at hp ⊢
    exact Routine.Meets.bind
      (startTimer?_meets he fun context more hmore => holdEach_meets he hp (hd.quiet hmore))
  | wait wait =>
    have hd' : Delivered (before ++ (Command.wait wait).presses) notes := by
      simpa [Command.presses, Command.holds] using hd
    exact ⟨he.always _ _, fun _ _ => ⟨he.always _ _, fun _ _ _ =>
      ⟨he.always _ _, (hd'.quiet rfl).quiet rfl⟩⟩⟩
  | start start =>
    have hd' : Delivered (before ++ (Command.start start).presses) notes := by
      simpa [Command.presses, Command.holds] using hd
    obtain ⟨_ | label⟩ := start
    · exact quiet_meets he (by simp) fun _ _ hn => hd'.quiet (by simp [hn])
    · exact Routine.Meets.bind (quiet_meets he (by simp) fun _ _ hn =>
        quiet_meets he (by simp) fun _ _ hn' => (hd'.quiet (by simp [hn])).quiet (by simp [hn']))
  | hit hit => exact hit_meets he hp hd
  | extension routine =>
    obtain rfl : routine = SoftReset.routine := hc
    rw [Command.presses, Command.holds_reset] at hp ⊢
    rw [Command.routine, SoftReset.routine_eq]
    refine ⟨he.always _ _, fun _ _ => ?_⟩
    refine Routine.Meets.bind (quiet_meets he (by simp) fun _ _ hn => ?_)
    refine Routine.Meets.bind (quiet_meets he (by simp) fun _ _ hn' => ?_)
    exact holdEach_meets he hp ((hd.quiet (by simp [hn])).quiet (by simp [hn']))

theorem step_meets {pass index : Nat} {step : Step} (hs : script.Standard)
    (he : promise.Expects script (pass + 1)) (hstep : script.steps[index]? = some step)
    (hd : Delivered (script.pressesUpTo pass index) notes) :
    step.command.routine.Meets promise
      (fun _ _ notes => Delivered (script.pressesUpTo pass (index + 1)) notes) context notes := by
  have hc : step.command.Standard := by
    refine hs.each _ (List.mem_map.2 ⟨step, ?_, rfl⟩)
    exact List.mem_of_getElem? (by simpa using hstep)
  have hp : script.pressesUpTo pass index ++ step.command.presses <+:
      script.pressesOf (pass + 1) := by
    rw [← Script.pressesUpTo_succ hstep]
    exact Script.pressesUpTo_prefix
  rw [Script.pressesUpTo_succ hstep]
  exact command_meets he hc hp hd

end Commands

-- ---------------------------------------------------------------------------
-- Passes
-- ---------------------------------------------------------------------------

def framesOutline (script : Script) (goal : Goal) : Outline where
  beforePass pass _ notes :=
    (∀ count, goal.passes? = some count → pass ≤ count) ∧ Delivered (script.pressesOf pass) notes
  beforeStep pass step _ notes :=
    ¬ goal.Enough pass ∧ Delivered (script.pressesUpTo pass step) notes
  during _ _ _ _ := True
  afterLast _ notes := ∃ passes, (∀ count, goal.passes? = some count → passes = count) ∧
    (goal.passes? = none → StopSeen notes) ∧ Delivered (script.pressesOf passes) notes
  ended outcome notes := ∃ passes done, (∀ count, goal.passes? = some count → passes = count) ∧
    done <+: script.pressesOf passes ∧ written notes = strokes done ∧
    (outcome = .completed → goal.passes? = some passes ∧ done = script.pressesOf passes)
  aborted := Rejected script

section Passes

variable {script : Script} {goal : Goal} {pass : Nat} {context : Context} {notes : List Note}

theorem not_enough_iff :
    ¬ goal.Enough pass ↔ ∀ count, goal.passes? = some count → pass < count := by
  simp [Goal.Enough]

theorem framesOutline_afterPass (he : ¬ goal.Enough pass)
    (hd : Delivered (script.pressesOf (pass + 1)) notes) :
    (framesOutline script goal).afterPass goal pass context notes := by
  have hle := not_enough_iff.1 he
  cases goal with
  | once =>
    obtain rfl : pass = 0 := by simpa [Goal.passes?] using hle
    exact ⟨1, by simp [Goal.passes?], by simp [Goal.passes?], hd⟩
  | repeated count => exact ⟨hle, hd⟩

theorem framesOutline_sound (hs : script.Standard) :
    (framesOutline script goal).Sound script goal where
  enough := by
    rintro pass context notes ⟨count, hcount, hle⟩ ⟨hpass, hd⟩
    obtain rfl := Nat.le_antisymm (hpass count hcount) hle
    exact ⟨pass, fun other ho => by simpa [hcount] using ho, by simp [hcount], hd⟩
  noPass := by
    rintro pass context notes outside hf hstop ⟨hpass, hd⟩
    have hd' := hd.quiet (show written [⟨outside, pass, 0, .heldBack⟩] = [] from rfl)
    have hseen : StopSeen (notes ++ [⟨outside, pass, 0, .heldBack⟩]) := by simp [hstop]
    cases hc : goal.passes? with
    | none => exact ⟨pass, by simp [hc], fun _ => hseen, hd'⟩
    | some count =>
      exact ⟨count, by simp [hc], by simp [hc],
        hd'.cut (Script.pressesOf_prefix (hpass count hc)) hseen⟩
  beginPass := by
    rintro pass context notes outside he hf hstop ⟨-, hd⟩ shown
    exact ⟨he, by rw [Script.pressesUpTo_zero]; exact hd.quiet rfl⟩
  beginStep := by
    rintro pass index step context notes outside hstep hf hstop ⟨he, hd⟩
    refine (step_meets hs (pressing_expects script pass index _) hstep (hd.quiet rfl)).mono ?_
    exact fun _ _ _ hd => ⟨he, hd⟩
  noStep := by
    rintro pass index context notes outside - hf hstop ⟨he, hd⟩
    refine framesOutline_afterPass he ?_
    exact (hd.quiet rfl).cut Script.pressesUpTo_prefix (by simp [hstop])
  endPass := by
    rintro pass index context notes hsize ⟨he, hd⟩
    refine framesOutline_afterPass he ?_
    rwa [← Script.pressesUpTo_of_size_le hsize]
  finish := by
    rintro context notes outside hf ⟨passes, hpasses, hstop, done, hdone, hw, hall⟩
    refine ⟨passes, done, hpasses, hdone, hw, fun hc => ?_⟩
    have hs : outside.stopRequested = false := by
      simpa [Outside.outcome] using hc
    have hns := hf.not_stopSeen hs
    cases hc : goal.passes? with
    | none => exact absurd (hstop hc) hns
    | some count => exact ⟨by rw [hpasses count hc], hall hns⟩

theorem framesOutline_initially (progress : Progress) :
    (framesOutline script goal).initially goal { progress } [] := by
  cases goal with
  | once => exact ⟨by simp [Goal.Enough, Goal.passes?], .of_written rfl⟩
  | repeated count => exact ⟨by simp, .of_written rfl⟩

end Passes

/-- However the clock goes on and whenever a stop is requested, a play of a standard script
whose writes are accepted ends with whole presses from the beginning of its passes. It is
interrupted exactly when the request stands at its end, and has completed only if all the
passes it was to make are written. -/
theorem finished_frames {registry : Registry} {source : List String} {script : Script}
    (hr : registry.Standard) (hs : Script.ofLines registry source = .ok script) (goal : Goal)
    (progress : Progress) {moments : Nat → Moment} (hm : Steady moments) {n : Nat}
    {result : Except Fault Outcome}
    (hrunning : ((Play.start script goal progress).after moments n).result? = none)
    (hended : ((Play.start script goal progress).after moments (n + 1)).result? = some result)
    (haccepted : ∀ bytes fault,
      Event.refused bytes fault ∉ (Play.start script goal progress).events moments (n + 1)) :
    ∃ outcome passes frames, result = .ok outcome ∧
      ((Play.start script goal progress).events moments (n + 1)).filterMap Event.wrote? = frames ∧
      (outcome = .interrupted ↔ (moments n).stopRequested = true) ∧
      (∀ count, goal.passes? = some count → passes = count) ∧
      frames <+: script.ideal passes ∧ 2 ∣ frames.length ∧
      (outcome = .completed → goal.passes? = some passes ∧ frames = script.ideal passes) ∧
      (∀ i, 2 * i < frames.length → frames[2 * i + 1]? = some Buttons.released.frame) ∧
      ∀ bytes, frames.getLast? = some bytes → bytes = Buttons.released.frame := by
  have hsound : (framesOutline script goal).Sound script goal :=
    framesOutline_sound (Script.standard_of_ofLines hr hs)
  have hat := hsound.at_after (framesOutline_initially progress.reset) hm (n + 1)
  rw [Play.phase_of_result? hended] at hat
  cases result with
  | error fault =>
    obtain ⟨_, earlier, note, bytes, hnotes, hn, -⟩ := hat
    obtain ⟨fault, hf⟩ := Play.refused_notes (by rw [hnotes]; simp) hn
    exact absurd hf (haccepted bytes fault)
  | ok outcome =>
    obtain ⟨passes, done, hpasses, hdone, hw, hcompleted⟩ := hat
    have houtcome := Play.outcome_of_advance hrunning hended
    refine ⟨outcome, passes, strokes done, rfl, ?_, ?_, hpasses, strokes_prefix hdone, ?_, ?_, ?_,
      fun bytes => getLast?_strokes⟩
    · rw [← hw, Play.written_notes]
    · rw [houtcome, Outside.outcome]
      split <;> simp_all
    · exact ⟨done.length, length_strokes done⟩
    · intro hc
      obtain ⟨hcount, hall⟩ := hcompleted hc
      exact ⟨hcount, by rw [hall, Script.ideal]⟩
    · intro i hi
      rw [length_strokes] at hi
      exact strokes_released (by omega)

/-- After a whole reset, a stop that falls into the first of two holds: it is released, the
other is left out. -/
theorem finished_frames_cut_short :
    let moments (n : Nat) : Moment := { now := Time.ofMillis (5000 * n), stopRequested := 45 ≤ n }
    let reset : List Buttons := [.z, .left, .a, .a, .start ∪ .y]
    let script : Script := .ofEntries
      [(0, .extension SoftReset.routine), (1, .press ⟨[.a, .x], 1, 0, none⟩)]
    Script.ofLines Tool.registry ["Reset", "Press A,X -d=1"] = .ok script ∧ Steady moments ∧
      script.ideal 1 = strokes (reset ++ [.a, .x]) ∧
      ∃ outcome passes frames, outcome = Outcome.interrupted ∧ frames = strokes (reset ++ [.a]) ∧
        frames <+: script.ideal passes := by
  intro moments reset script
  have hread : Script.ofLines Tool.registry ["Reset", "Press A,X -d=1"] = .ok script := by rfl
  have hsteady : Steady moments :=
    ⟨fun n => Nat.mul_le_mul_right _ (by omega), fun n => by simp [moments]; omega⟩
  have hevents : (Play.start script (.repeated (-1)) {}).events moments 51 =
      .logged ⟨.info, "reset", "seed 0000"⟩ :: (strokes (reset ++ [.a])).map .wrote := by
    decide +kernel
  have hended : ((Play.start script (.repeated (-1)) {}).after moments 51).result? =
      some (.ok .interrupted) := by decide +kernel
  obtain ⟨outcome, passes, frames, -, hframes, hinterrupted, -, hprefix, -⟩ :=
    finished_frames (.inr (by rfl)) hread (.repeated (-1)) {} hsteady (n := 50)
      (by decide +kernel) hended (by simp [hevents, strokes])
  rw [hevents] at hframes
  refine ⟨hread, hsteady, by decide +kernel, outcome, passes, frames,
    hinterrupted.2 (by decide), ?_, hprefix⟩
  rw [← hframes]
  decide +kernel

end PadScript
