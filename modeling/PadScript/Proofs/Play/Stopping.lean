import PadScript.Proofs.Play.Published
import PadScript.Proofs.Play.Refusal

/-!
# Stopping a play

A request to stop may fall between any two actions of a play. Wherever that is, no step begins
once the play could see it, and of the command under way only the rest of one hold is written:
the press that was about to be written, if any, and its release (`stops_promptly`). A law of
routines says so of each thing that a command may have left to do (`Routine.Prompt`).
-/

namespace PadScript

-- ---------------------------------------------------------------------------
-- What is still written
-- ---------------------------------------------------------------------------

def Action.frame? : Action → Option (List UInt8)
  | .write bytes => some bytes
  | _ => none

/-- A hold from some point on: all of it, its release, or nothing. -/
def RestOfHold (frames : List (List UInt8)) : Prop :=
  ∃ buttons : Buttons, frames <:+ [buttons.frame, Buttons.released.frame]

theorem restOfHold_nil : RestOfHold [] := ⟨.released, List.nil_suffix⟩

theorem restOfHold_release : RestOfHold [Buttons.released.frame] :=
  ⟨.released, List.suffix_cons _ _⟩

theorem restOfHold_press (buttons : Buttons) :
    RestOfHold [buttons.frame, Buttons.released.frame] := ⟨buttons, List.suffix_rfl⟩

theorem RestOfHold.length_le {frames : List (List UInt8)} (h : RestOfHold frames) :
    frames.length ≤ 2 := by
  obtain ⟨buttons, hsuffix⟩ := h
  exact hsuffix.length_le

theorem RestOfHold.getLast? {frames : List (List UInt8)} (h : RestOfHold frames)
    {bytes : List UInt8} (hlast : frames.getLast? = some bytes) :
    bytes = Buttons.released.frame := by
  obtain ⟨buttons, earlier, heq⟩ := h
  have hall := congrArg List.getLast? heq
  rw [List.getLast?_append, hlast] at hall
  exact Option.some.inj hall

namespace Routine

variable {r left : Routine Unit} {post post' : List (List UInt8) → Prop}

/-- If every answer from now on is to stop, `post` holds of the frames that are written. -/
def Closes : Routine Unit → (List (List UInt8) → Prop) → Prop
  | done _, post | fail _, post => post []
  | act action next, post => next.Closes fun frames => post (action.frame?.toList ++ frames)
  | check next, post => (next true).Closes post
  | pause _ next, post => (next true).Closes post
  | consult next, post => ∀ context now, (next context now).Closes post

theorem Closes.mono (h : r.Closes post) (hpost : ∀ frames, post frames → post' frames) :
    r.Closes post' := by
  induction r generalizing post post' with
  | done | fail => exact hpost [] h
  | act action next ih => exact ih h fun frames => hpost _
  | check next ih => exact ih true h hpost
  | pause p next ih => exact ih true h hpost
  | consult next ih => exact fun context now => ih context now (h context now) hpost

theorem Closes.exists (h : r.Closes post) : ∃ frames, post frames := by
  induction r generalizing post with
  | done | fail => exact ⟨[], h⟩
  | act action next ih =>
    obtain ⟨frames, hframes⟩ := ih h
    exact ⟨_, hframes⟩
  | check next ih => exact ih true h
  | pause p next ih => exact ih true h
  | consult next ih => exact ih {} 0 (h {} 0)

/-- Whenever the play is asked to stop, the rest of one hold is all that is written. -/
def Prompt : Routine Unit → Prop
  | done _ | fail _ => True
  | act action next => (act action next).Closes RestOfHold ∧ next.Prompt
  | check next => (check next).Closes RestOfHold ∧ ∀ answer, (next answer).Prompt
  | pause p next => (pause p next).Closes RestOfHold ∧ ∀ answer, (next answer).Prompt
  | consult next => (consult next).Closes RestOfHold ∧
      ∀ context now, (next context now).Prompt

theorem Prompt.closes (h : r.Prompt) : r.Closes RestOfHold := by
  cases r with
  | done | fail => exact restOfHold_nil
  | _ => exact h.1

theorem Prompt.leaves (h : r.Prompt) (hleft : r.Leaves left) : left.Prompt := by
  induction hleft with
  | all => exact h
  | act _ ih => exact ih.2
  | check answer _ ih => exact ih.2 answer
  | pause answer _ ih => exact ih.2 answer
  | consult context now _ ih => exact ih.2 context now

-- ---------------------------------------------------------------------------
-- Commands
-- ---------------------------------------------------------------------------

theorem prompt_act {action : Action} (hquiet : action.frame? = none) (h : r.Prompt) :
    (act action r).Prompt := by
  refine ⟨?_, h⟩
  have hcloses := h.closes
  rw [Closes, hquiet]
  exact hcloses

theorem prompt_consult {next : Context → Time → Routine Unit}
    (h : ∀ context now, (next context now).Prompt) : (consult next).Prompt :=
  ⟨fun context now => (h context now).closes, h⟩

theorem prompt_hold (buttons : Buttons) (ms : UInt32) {k : Bool → Routine Unit}
    (hsilent : ∀ stopped, (k stopped).Closes (· = [])) (hk : ∀ stopped, (k stopped).Prompt) :
    (hold buttons ms >>= k).Prompt := by
  have hrelease (stopped : Bool) :
      (act (.write Buttons.released.frame) (k stopped)).Closes RestOfHold := by
    refine (hsilent stopped).mono ?_
    rintro _ rfl
    exact restOfHold_release
  -- Before the press both frames are still to come, after it only the release is.
  have hpress : (act (.write buttons.frame) (pause (.delay ms true) fun stopped =>
      act (.write Buttons.released.frame) (k stopped))).Closes RestOfHold := by
    refine (hsilent true).mono ?_
    rintro _ rfl
    exact restOfHold_press buttons
  exact ⟨hpress, hrelease true, fun stopped => ⟨hrelease stopped, hk stopped⟩⟩

theorem prompt_holdEach (holds : List (Buttons × UInt32 × UInt32)) : (holdEach holds).Prompt := by
  induction holds with
  | nil => trivial
  | cons hold rest ih =>
    obtain ⟨buttons, holdMs, pauseMs⟩ := hold
    rw [holdEach_cons]
    refine ⟨restOfHold_nil, fun stopped => ?_⟩
    cases stopped with
    | true => trivial
    | false =>
      refine prompt_hold buttons holdMs (fun stopped => ?_) fun stopped => ?_
      · cases stopped <;> rfl
      · cases stopped with
        | true => trivial
        | false =>
          refine ⟨restOfHold_nil, fun stopped => ?_⟩
          cases stopped with
          | true => trivial
          | false => exact ih

theorem prompt_startTimer? (start : Option Label) (h : r.Prompt) :
    (startTimer? start >>= fun _ => r).Prompt := by
  cases start with
  | none => exact h
  | some label => exact prompt_act rfl h

end Routine

theorem Hit.prompt_routine (hit : Hit) : hit.routine.Prompt := by
  rw [Hit.routine_eq]
  refine ⟨restOfHold_nil, fun stopped => ?_⟩
  cases stopped with
  | true => trivial
  | false =>
    refine Routine.prompt_act rfl (Routine.prompt_startTimer? hit.start ?_)
    exact Routine.prompt_hold _ _ (fun _ => rfl) fun _ => trivial

theorem Command.Standard.prompt {command : Command} (h : command.Standard) :
    command.routine.Prompt := by
  cases command with
  | press press => exact Routine.prompt_startTimer? press.start (Routine.prompt_holdEach _)
  | wait wait => exact ⟨restOfHold_nil, fun _ => trivial⟩
  | hit hit => exact hit.prompt_routine
  | start start =>
    obtain ⟨_ | label⟩ := start
    · exact Routine.prompt_act rfl trivial
    · exact Routine.prompt_act rfl (Routine.prompt_act rfl trivial)
  | extension routine =>
    obtain rfl : routine = SoftReset.routine := h
    rw [Command.routine, SoftReset.routine_eq]
    refine Routine.prompt_consult fun context now => ?_
    exact Routine.prompt_act rfl (Routine.prompt_act rfl (Routine.prompt_holdEach _))

-- ---------------------------------------------------------------------------
-- Plays
-- ---------------------------------------------------------------------------

namespace Note

def begins (note : Note) : Bool :=
  match note.deed with
  | .passBegun | .stepBegun => true
  | _ => false

def beginsStep (note : Note) : Bool :=
  match note.deed with
  | .stepBegun => true
  | _ => false

end Note

namespace Play

variable {play : Play} {moment : Moment} {moments : Nat → Moment}
  {post : List (List UInt8) → Prop}

/-- If the play is asked to stop from now on, `post` holds of the frames that are written. -/
def Closes (play : Play) (post : List (List UInt8) → Prop) : Prop :=
  match play.phase with
  | .acting _ _ routine => routine.Closes post
  | .waiting _ _ _ next => (next true).Closes post
  | .atPass _ | .atStep .. | .ending | .finished (.ok _) => post []
  -- A write was refused.
  | .finished (.error _) => ∃ frames, post frames

theorem Closes.exists (h : play.Closes post) : ∃ frames, post frames := by
  obtain ⟨script, goal, context, phase⟩ := play
  cases phase with
  | acting pass step routine => exact Routine.Closes.exists h
  | waiting pass step deadline next => exact Routine.Closes.exists h
  | atPass | atStep | ending => exact ⟨[], h⟩
  | finished result =>
    cases result with
    | ok outcome => exact ⟨[], h⟩
    | error fault => exact h

theorem Closes.act {pass step : Nat} {action : Action} {next : Routine Unit}
    (h : play.Closes post) (hphase : play.phase = .acting pass step (.act action next))
    (moment : Moment) :
    (play.advance moment).1.Closes fun frames =>
      post (written (play.note? moment).toList ++ frames) := by
  obtain ⟨script, goal, context, phase⟩ := play
  subst hphase
  have hnext : next.Closes fun frames => post (action.frame?.toList ++ frames) := h
  cases action with
  | write bytes =>
    cases hrefusal : moment.refusal with
    | none =>
      simpa [Play.advance, Play.act, note?, deed?, hrefusal, Note.wrote?, Closes,
        Action.frame?] using hnext
    | some fault =>
      obtain ⟨frames, hframes⟩ := hnext.exists
      simpa [Play.advance, Play.act, note?, deed?, hrefusal, Note.wrote?, Closes, Play.finish] using
        ⟨_, hframes⟩
  | _ => exact hnext

theorem closes_endPass (h : post []) (pass : Nat) : (play.endPass pass).Closes post := by
  unfold Closes endPass
  cases play.goal <;> exact h

theorem closes_beginPass (h : post []) (pass : Nat) :
    (play.beginPass pass moment).Closes post := by
  unfold beginPass
  split
  · exact h
  · split <;> exact h

theorem closes_beginStep (h : post []) (hstop : moment.stopRequested = true) (pass step : Nat) :
    (play.beginStep pass step moment).Closes post := by
  unfold beginStep
  split
  · exact closes_endPass h pass
  · rw [if_pos hstop]
    exact closes_endPass h pass

theorem written_note?_of_ne_act
    (h : ∀ pass step action next, play.phase ≠ .acting pass step (.act action next)) :
    written (play.note? moment).toList = [] := by
  obtain ⟨script, goal, context, phase⟩ := play
  rw [written_note?]
  cases phase with
  | acting pass step routine =>
    cases routine with
    | act action next => exact absurd rfl (h pass step action next)
    | _ => rfl
  | waiting pass step deadline next =>
    simp only [Play.advance]
    split <;> rfl
  | _ => rfl

theorem Closes.advance (h : play.Closes post) (hstop : moment.stopRequested = true) :
    (play.advance moment).1.Closes fun frames =>
      post (written (play.note? moment).toList ++ frames) := by
  obtain ⟨script, goal, context, phase⟩ := play
  cases phase with
  | acting pass step routine =>
    cases routine with
    | act action next => exact h.act rfl moment
    | done result => exact h
    | fail fault => exact ⟨[], h⟩
    | check next =>
      simpa [Play.advance, note?, deed?, Note.wrote?, Closes, hstop, Routine.Closes] using h
    | consult next => exact h _ _
    | pause p next => cases p <;> exact h
  | waiting pass step deadline next =>
    have hpoll : pollWait deadline moment.toOutside = some true :=
      pollWait_eq_some_iff.2 ⟨hstop.symm, .inl hstop⟩
    simpa [Play.advance, note?, deed?, hpoll, Note.wrote?, Closes] using h
  | atPass pass =>
    rw [written_note?_of_ne_act (by simp)]
    exact closes_beginPass h pass
  | atStep pass step =>
    rw [written_note?_of_ne_act (by simp)]
    exact closes_beginStep h hstop pass step
  | ending => exact h
  | finished result => cases result <;> exact h

theorem closes_after {script : Script} (hs : script.Standard) (goal : Goal) (progress : Progress)
    (moments : Nat → Moment) (n : Nat) :
    ((start script goal progress).after moments n).Closes RestOfHold := by
  obtain ⟨hscript, -⟩ := (start script goal progress).after_same moments n
  have hpublished := published_after script goal progress moments n
  generalize (start script goal progress).after moments n = play at hscript hpublished
  have hprompt (routine : Routine Unit) (hroutine : play.phase.Performs routine)
      (hstep : play.phase.step?.isSome = true) : routine.Prompt := by
    obtain ⟨step, hcurrent⟩ := Option.isSome_iff_exists.1 (hpublished.known hstep)
    obtain ⟨index, -, hget⟩ := Option.bind_eq_some_iff.1 hcurrent
    have hcommand : step.command.Standard := by
      refine hs.each _ (List.mem_map.2 ⟨step, ?_, rfl⟩)
      rw [hscript] at hget
      exact Array.mem_toList_iff.2 (Array.mem_of_getElem? hget)
    exact hcommand.prompt.leaves (hpublished.rest step hcurrent routine hroutine)
  obtain ⟨script', goal', context, phase⟩ := play
  cases phase with
  | acting pass step routine => exact (hprompt routine rfl rfl).closes
  | waiting pass step deadline next => exact (hprompt _ ⟨true, rfl⟩ rfl).closes
  | finished result =>
    cases result with
    | ok outcome => exact restOfHold_nil
    | error fault => exact ⟨[], restOfHold_nil⟩
  | _ => exact restOfHold_nil

theorem closes_from {script : Script} (hs : script.Standard) (goal : Goal) (progress : Progress)
    (moments : Nat → Moment) (n : Nat) :
    ((start script goal progress).after moments (n + 1)).Closes fun frames =>
      RestOfHold (written (((start script goal progress).after moments n).note?
        (moments n)).toList ++ frames) := by
  -- The flag may be down at this moment. An action does not look at it, and what does look
  -- writes nothing.
  by_cases hacts : ∃ pass step action next,
      ((start script goal progress).after moments n).phase = .acting pass step (.act action next)
  · obtain ⟨pass, step, action, next, hphase⟩ := hacts
    exact (closes_after hs goal progress moments n).act hphase (moments n)
  · rw [written_note?_of_ne_act]
    · exact closes_after hs goal progress moments (n + 1)
    · intro pass step action next hphase
      exact hacts ⟨pass, step, action, next, hphase⟩

theorem begins_of_stop {note : Note} (hn : play.note? moment = some note)
    (hstop : moment.stopRequested = true) : note.begins = false := by
  obtain ⟨deed, hdeed, rfl⟩ := Option.map_eq_some_iff.1 hn
  obtain ⟨script, goal, context, phase⟩ := play
  cases phase with
  | atPass pass =>
    cases goal with
    | once => cases hdeed
    | repeated count =>
      simp only [deed?, hstop, if_true] at hdeed
      split at hdeed
      · cases hdeed
      · cases hdeed
        rfl
  | atStep pass step =>
    simp only [deed?, hstop, if_true] at hdeed
    split at hdeed
    · cases hdeed
      rfl
    · cases hdeed
  | acting pass step routine =>
    cases routine with
    | act action next =>
      cases action with
      | write bytes =>
        simp only [deed?] at hdeed
        split at hdeed <;> cases hdeed <;> rfl
      | _ =>
        cases hdeed
        rfl
    | check | pause =>
      cases hdeed
      rfl
    | done | fail | consult => cases hdeed
  | waiting pass step deadline next =>
    simp only [deed?] at hdeed
    split at hdeed
    · cases hdeed
      rfl
    · cases hdeed
  | ending | finished => cases hdeed

theorem Closes.since {n : Nat} (h : (play.after moments n).Closes post)
    (hstop : ∀ later, n ≤ later → (moments later).stopRequested = true) (k : Nat) :
    ∃ rest, play.notes moments (n + k) = play.notes moments n ++ rest ∧
      (∀ note ∈ rest, note.begins = false) ∧
      (play.after moments (n + k)).Closes fun frames => post (written rest ++ frames) := by
  induction k with
  | zero => exact ⟨[], (List.append_nil _).symm, by simp, h⟩
  | succ k ih =>
    obtain ⟨rest, hnotes, hbegins, hcloses⟩ := ih
    have hup := hstop (n + k) (Nat.le_add_right n k)
    refine ⟨rest ++ ((play.after moments (n + k)).note? (moments (n + k))).toList, ?_, ?_, ?_⟩
    · rw [← Nat.add_assoc, notes, hnotes, List.append_assoc]
    · intro note hn
      rcases List.mem_append.1 hn with hn | hn
      · exact hbegins note hn
      · exact begins_of_stop (Option.mem_toList.1 hn) hup
    · have hnext := hcloses.advance hup
      simp only [written_append, List.append_assoc]
      exact hnext

/-- What a play of a standard script does from a moment on, if a stop is requested by the next:
one thing that it may have seen no reason to leave out, and the rest of a hold. -/
theorem stopped_since {script : Script} (hs : script.Standard) (goal : Goal) (progress : Progress)
    {moments : Nat → Moment} (hm : Steady moments) {m n : Nat}
    (hstop : (moments (m + 1)).stopRequested = true) (hn : m < n) :
    ∃ (first : Option Note) (rest : List Note),
      (start script goal progress).notes moments n =
        (start script goal progress).notes moments m ++ (first.toList ++ rest) ∧
      (∀ note ∈ rest, note.begins = false) ∧
      ((start script goal progress).after moments n).Closes fun frames =>
        RestOfHold (written (first.toList ++ rest) ++ frames) := by
  obtain ⟨k, rfl⟩ : ∃ k, n = m + 1 + k := Nat.exists_eq_add_of_le hn
  have hup (later : Nat) (hle : m + 1 ≤ later) : (moments later).stopRequested = true :=
    hm.stopRequested_of_le hle hstop
  obtain ⟨rest, hnotes, hbegins, hcloses⟩ := (closes_from hs goal progress moments m).since hup k
  refine ⟨((start script goal progress).after moments m).note? (moments m), rest, ?_, hbegins, ?_⟩
  · rw [hnotes, notes, List.append_assoc]
  · simp only [written_append, List.append_assoc]
    exact hcloses

theorem exists_outcome_of_accepted {script : Script} (hs : script.Standard) {goal : Goal}
    {progress : Progress} {moments : Nat → Moment} (hm : Steady moments) {n : Nat}
    {result : Except Fault Outcome}
    (h : ((start script goal progress).after moments n).result? = some result)
    (haccepted : ∀ bytes fault,
      Event.refused bytes fault ∉ (start script goal progress).events moments n) :
    ∃ outcome, result = .ok outcome := by
  cases result with
  | ok outcome => exact ⟨outcome, rfl⟩
  | error fault =>
    obtain ⟨_, earlier, note, bytes, -, hnotes, hdeed, -⟩ := rejected_of_result? hs hm h
    obtain ⟨fault, hevent⟩ := refused_notes (by rw [hnotes]; simp) hdeed
    exact absurd hevent (haccepted bytes fault)

end Play

section Since

variable {first : Option Note} {rest : List Note}

theorem countP_beginsStep_eq_zero (h : ∀ note ∈ rest, note.begins = false) :
    rest.countP Note.beginsStep = 0 := by
  apply List.countP_eq_zero.2
  intro note hn hstep
  have hquiet := h note hn
  unfold Note.begins at hquiet
  unfold Note.beginsStep at hstep
  split at hstep
  · rename_i hdeed
    simp [hdeed] at hquiet
  · cases hstep

theorem countP_beginsStep_le_one (h : ∀ note ∈ rest, note.begins = false) :
    (first.toList ++ rest).countP Note.beginsStep ≤ 1 := by
  rw [List.countP_append, countP_beginsStep_eq_zero h]
  exact List.countP_le_length.trans Option.length_toList_le

theorem countP_beginsStep_of_passBegun (h : ∀ note ∈ rest, note.begins = false)
    {entered : Note} (hmem : entered ∈ first.toList ++ rest) (hdeed : entered.deed = .passBegun) :
    (first.toList ++ rest).countP Note.beginsStep = 0 := by
  rw [List.countP_append, countP_beginsStep_eq_zero h]
  rcases List.mem_append.1 hmem with hmem | hmem
  · obtain rfl := Option.mem_toList.1 hmem
    simp [Note.beginsStep, hdeed]
  · have hquiet := h entered hmem
    simp [Note.begins, hdeed] at hquiet

end Since

/-- Whatever the clock is and wherever in a play of a standard script the request falls, also
between what the play sees and what it does next, at most one more step begins and no more than
the rest of one hold is written; a pass that is begun has no step. When the play has ended, as
it does, the last frame that was written since is the release, unless the output refused one. -/
theorem stops_promptly {registry : Registry} {source : List String} {script : Script}
    (hr : registry.Standard) (hs : Script.ofLines registry source = .ok script) (goal : Goal)
    (progress : Progress) {moments : Nat → Moment} (hm : Steady moments) {m : Nat}
    (hstop : (moments (m + 1)).stopRequested = true) :
    let play := Play.start script goal progress
    (∀ n, m < n → ∃ later frames, play.notes moments n = play.notes moments m ++ later ∧
      (play.events moments n).filterMap Event.wrote? =
        (play.events moments m).filterMap Event.wrote? ++ frames ∧
      later.countP Note.beginsStep ≤ 1 ∧ frames.length ≤ 2 ∧
      ((∃ entered ∈ later, entered.deed = .passBegun) → later.countP Note.beginsStep = 0) ∧
      ∀ result, (play.after moments n).result? = some result →
        (∀ bytes fault, Event.refused bytes fault ∉ play.events moments n) →
        ∀ bytes, frames.getLast? = some bytes → bytes = Buttons.released.frame) ∧
    ((∀ time, ∃ n, time ≤ (moments n).now) →
      ∃ n result, (play.after moments n).result? = some result) := by
  intro play
  have hstandard : script.Standard := Script.standard_of_ofLines hr hs
  refine ⟨fun n hn => ?_, fun hclock => play.ends hm hclock fun _ => ⟨m + 1, hstop⟩⟩
  obtain ⟨first, rest, hlater, hbegins, hcloses⟩ :=
    Play.stopped_since hstandard goal progress hm hstop hn
  refine ⟨first.toList ++ rest, written (first.toList ++ rest), hlater, ?_,
    countP_beginsStep_le_one hbegins, ?_, ?_, ?_⟩
  · rw [← Play.written_notes, ← Play.written_notes, hlater, written_append]
  · obtain ⟨frames, hrest⟩ := hcloses.exists
    have hlength := hrest.length_le
    rw [List.length_append] at hlength
    omega
  · rintro ⟨entered, hentered, hdeed⟩
    exact countP_beginsStep_of_passBegun hbegins hentered hdeed
  · intro result hresult haccepted bytes hlast
    obtain ⟨outcome, rfl⟩ := Play.exists_outcome_of_accepted hstandard hm hresult haccepted
    rw [Play.Closes, Play.phase_of_result? hresult] at hcloses
    have hrest : RestOfHold (written (first.toList ++ rest) ++ []) := hcloses
    rw [List.append_nil] at hrest
    exact hrest.getLast? hlast

def pressTwice : Script := .ofEntries [(0, .press ⟨[Buttons.a, Buttons.x], 1, 0, none⟩)]

/-- The request falls between the last look before the first press and the press. -/
theorem stops_promptly_pressTwice :
    Script.ofLines .builtin ["Press A,X -d=1"] = .ok pressTwice ∧
      (Moment.ticks 3 2).stopRequested = false ∧
      ∃ later frames, (Play.start pressTwice (.repeated (-1)) {}).notes (Moment.ticks 3) 20 =
          (Play.start pressTwice (.repeated (-1)) {}).notes (Moment.ticks 3) 2 ++ later ∧
        later.countP Note.beginsStep ≤ 1 ∧
        frames = [Buttons.a.frame, Buttons.released.frame] ∧
        ∀ bytes, frames.getLast? = some bytes → bytes = Buttons.released.frame := by
  have hread : Script.ofLines .builtin ["Press A,X -d=1"] = .ok pressTwice := by rfl
  obtain ⟨hsince, -⟩ := stops_promptly (.inl rfl) hread (.repeated (-1)) {} (steady_ticks 3)
    (show (Moment.ticks 3 (2 + 1)).stopRequested = true by decide)
  obtain ⟨later, frames, hlater, hframes, hsteps, -, -, hlast⟩ := hsince 20 (by decide)
  have hevents : (Play.start pressTwice (.repeated (-1)) {}).events (Moment.ticks 3) 20 =
      [.wrote Buttons.a.frame, .wrote Buttons.released.frame] := by decide +kernel
  have hbefore : (Play.start pressTwice (.repeated (-1)) {}).events (Moment.ticks 3) 2 = [] := by
    decide +kernel
  have hended : ((Play.start pressTwice (.repeated (-1)) {}).after (Moment.ticks 3) 20).result? =
      some (.ok .interrupted) := by decide +kernel
  rw [hevents, hbefore] at hframes
  refine ⟨hread, by decide, later, frames, hlater, hsteps, hframes.symm, ?_⟩
  exact hlast _ hended (by simp [hevents])

end PadScript
