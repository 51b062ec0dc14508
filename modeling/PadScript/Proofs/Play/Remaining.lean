import PadScript.Proofs.Play.Cursor

/-!
# The frames that remain

The display counts down to the planned hit at the cursor. The cursor counts starts as well
as hits, the plan only hits: while a hit waits, the cursor stands as many entries behind its
own in the plan as there are starts before it, a press that woke up the cursor counted as one
of them and the first of them left out (`remainingFrames_waiting`). With one start, or one such
press and no start, that is the hit's own entry.
-/

namespace PadScript

-- ---------------------------------------------------------------------------
-- The plan
-- ---------------------------------------------------------------------------

namespace Script

variable {script : Script} {step earlier : Nat} {hit : Hit}

theorem plan_of_ofLines {registry : Registry} (hr : registry.Standard) {source : List String}
    (hs : ofLines registry source = .ok script) :
    script.plan.toList = script.commands.filterMap Command.planned? := by
  obtain ⟨spells, hu, -⟩ := hr.understands
  obtain ⟨entries, -, -, -, rfl⟩ := (ofLines_eq_ok_iff hu).1 hs
  rw [plan_ofEntries, commands, List.filterMap_map]
  rfl

theorem length_planned (commands : List Command) :
    (commands.filterMap Command.planned?).length = commands.countP Command.isHit := by
  rw [List.length_filterMap_eq_countP]
  congr 1
  funext command
  cases command <;> rfl

theorem plan_hitsBefore (hplan : script.plan.toList = script.commands.filterMap Command.planned?)
    (hc : script.commands[step]? = some (.hit hit)) :
    script.plan[script.hitsBefore step]? = some ⟨hit.label, hit.frame⟩ := by
  have hentries : script.plan.toList = (script.commands.take step).filterMap Command.planned? ++
      ⟨hit.label, hit.frame⟩ ::
        (script.commands.drop (step + 1)).filterMap Command.planned? := by
    rw [hplan]
    conv_lhs => rw [commands_split hc, List.filterMap_append]
    rfl
  rw [← Array.getElem?_toList, hentries, hitsBefore, ← length_planned]
  simp

-- ---------------------------------------------------------------------------
-- Starts before a hit
-- ---------------------------------------------------------------------------

/-- How often the cursor was moved before a step by what is no hit. -/
def ahead (script : Script) (step : Nat) : Nat :=
  script.startsBefore step + (script.wokenBefore step).toNat

theorem cursor_eq (script : Script) (step : Nat) :
    script.cursor step = script.hitsBefore step + script.ahead step - 1 := by
  unfold cursor ahead
  omega

theorem startsBefore_mono (h : earlier ≤ step) :
    script.startsBefore earlier ≤ script.startsBefore step :=
  (List.take_sublist_take_left h).countP_le

theorem ahead_mono (h : earlier ≤ step) : script.ahead earlier ≤ script.ahead step := by
  refine Nat.add_le_add (startsBefore_mono h) ?_
  cases hwoken : script.wokenBefore earlier with
  | false => exact Nat.zero_le _
  | true =>
    obtain ⟨press, hpress, hleads⟩ := List.any_eq_true.1 hwoken
    have hlater : script.wokenBefore step = true := by
      refine List.any_eq_true.2 ⟨press, ?_, hleads⟩
      exact List.mem_range.2 ((List.mem_range.1 hpress).trans_le h)
    rw [hlater]

theorem startsBefore_pos {start : Start} (hlt : earlier < step)
    (hc : script.commands[earlier]? = some (.start start)) : 0 < script.startsBefore step := by
  refine List.countP_pos_iff.2 ⟨.start start, ?_, rfl⟩
  exact List.mem_of_getElem? ((List.getElem?_take_of_lt hlt).trans hc)

theorem exists_hit_of_hitsBefore (h : script.hitsBefore step ≠ 0) :
    ∃ earlier hit, earlier < step ∧ script.commands[earlier]? = some (.hit hit) := by
  obtain ⟨command, hmem, hhit⟩ := List.countP_pos_iff.1 (Nat.pos_of_ne_zero h)
  obtain ⟨earlier, he⟩ := List.mem_iff_getElem?.1 hmem
  rw [List.getElem?_take] at he
  split at he
  · rename_i hlt
    cases command with
    | hit hit => exact ⟨earlier, hit, hlt, he⟩
    | _ => cases hhit
  · cases he

theorem Standard.ahead_pos (h : script.Standard)
    (hc : script.commands[step]? = some (.hit hit)) : 0 < script.ahead step := by
  induction step using Nat.strong_induction_on generalizing hit with
  | _ step ih =>
    obtain ⟨earlier, hlt, command, hcommand, hstarts⟩ := h.starts_before hc
    cases command with
    | wait | extension => cases hstarts
    | start start => exact Nat.add_pos_left (startsBefore_pos hlt hcommand) _
    | hit other => exact (ih earlier hlt hcommand).trans_le (ahead_mono hlt.le)
    | press press =>
      by_cases hstart : script.startsBefore earlier = 0
      · by_cases hhit : script.hitsBefore earlier = 0
        · -- The press is what wakes up the cursor.
          have hwoken : script.wokenBefore step = true := by
            refine List.any_eq_true.2 ⟨earlier, List.mem_range.2 hlt, ?_⟩
            have hwaking : (Command.press press).isWakingPress = true :=
              Option.isSome_of_eq_some hstarts
            simp [hcommand, hwaking, hstart, hhit]
          simp [ahead, hwoken]
        · obtain ⟨first, other, hfirst, hother⟩ := exists_hit_of_hitsBefore hhit
          have hpos := ih first (hfirst.trans hlt) hother
          exact hpos.trans_le (ahead_mono (hfirst.trans hlt).le)
      · exact Nat.add_pos_left
          ((Nat.pos_of_ne_zero hstart).trans_le (startsBefore_mono hlt.le)) _

end Script

-- ---------------------------------------------------------------------------
-- While a hit waits
-- ---------------------------------------------------------------------------

/-- Frames left until a planned hit, by what is published of its timer. -/
def Progress.framesLeft (progress : Progress) (hit : PlannedHit) (now : Time) : Int :=
  let elapsed := (progress.timerElapsed hit.label now).toMillis
  hit.frame.toNat - (FrameRate.ofMillis (UInt64.ofNat elapsed)).toInt

theorem Progress.remainingFrames?_eq (progress : Progress) (plan : Array PlannedHit) (now : Time) :
    progress.remainingFrames? plan now =
      (progress.nextPlanned? plan).map fun hit => progress.framesLeft hit now := rfl

def Note.waitBegun? (note : Note) : Option Pause :=
  match note.deed with
  | .waitBegun pause => some pause
  | _ => none

/-- The step of the pass is this hit. It has begun to wait for its timer and waits still. -/
structure Play.AwaitsHit (play : Play) (notes : List Note) (pass step : Nat) (hit : Hit) :
    Prop where
  command : play.script.commands[step]? = some (.hit hit)
  place : play.place = (pass, step)
  waiting : play.deadline?.isSome = true
  begun : notes.getLast?.bind Note.waitBegun? = some (.timer hit.label hit.dueMs)

theorem Play.phase_of_deadline? {play : Play} (h : play.deadline?.isSome = true) :
    ∃ deadline next, play.phase = .waiting play.place.1 play.place.2 deadline next := by
  obtain ⟨script, goal, context, phase⟩ := play
  cases phase with
  | waiting pass step deadline next => exact ⟨deadline, next, rfl⟩
  | _ => cases h

theorem Note.awaitsTimer_of_waitBegun? {note : Note} {label : Label} {ms : UInt64}
    (h : note.waitBegun? = some (.timer label ms)) : note.awaitsTimer = true := by
  unfold waitBegun? at h
  unfold awaitsTimer
  split at h
  · rename_i hdeed
    rw [hdeed, Option.some.inj h]
  · cases h

theorem AtCursor.nextPlanned? {script : Script} {pass step : Nat} {context : Context}
    {notes : List Note} (h : AtCursor script pass step false context notes)
    (hahead : 0 < script.ahead step) (hlt : script.cursor step < 2 ^ 31)
    (plan : Array PlannedHit) :
    context.progress.nextPlanned? plan =
      plan[script.hitsBefore step + (script.ahead step - 1)]? := by
  have hhit : context.progress.hit.toInt = script.hitsBefore step + script.ahead step - 1 := by
    rw [← script.cursor_eq]
    exact h.hit hlt
  have hge : ¬ context.progress.hit < 0 := by
    have hzero : (0 : Int32).toInt = 0 := rfl
    rw [Int32.lt_iff_toInt_lt, hzero]
    omega
  have hindex : context.progress.hit.toInt.toNat =
      script.hitsBefore step + (script.ahead step - 1) := by omega
  rw [Progress.nextPlanned?, if_neg hge, hindex]

/-- While a hit of a standard script waits for its timer, something that is no hit has moved
the cursor, and the display counts down to the entry of the plan that comes as far behind the
hit's own as there were more such moves, as long as the cursor can count them. After one of
them that is the hit's own entry. -/
theorem remainingFrames_waiting {registry : Registry} (hr : registry.Standard)
    {source : List String} {script : Script} (hs : Script.ofLines registry source = .ok script)
    (goal : Goal) (progress : Progress) {moments : Nat → Moment} (hm : Steady moments) (n : Nat)
    {play : Play} (hplay : (Play.start script goal progress).after moments n = play)
    {pass step : Nat} {hit : Hit}
    (h : play.AwaitsHit ((Play.start script goal progress).notes moments n) pass step hit) :
    0 < script.ahead step ∧
    script.plan[script.hitsBefore step]? = some ⟨hit.label, hit.frame⟩ ∧
    (script.hitsBefore step + (script.ahead step - 1) < 2 ^ 31 → ∀ now,
      play.progress.remainingFrames? script.plan now =
        (script.plan[script.hitsBefore step + (script.ahead step - 1)]?).map
          (fun planned => play.progress.framesLeft planned now) ∧
      (script.ahead step = 1 → play.progress.remainingFrames? script.plan now =
        some (play.progress.framesLeft ⟨hit.label, hit.frame⟩ now))) := by
  subst hplay
  obtain ⟨hscript, -⟩ := (Play.start script goal progress).after_same moments n
  have hstandard := Script.standard_of_ofLines hr hs
  have hc : script.commands[step]? = some (.hit hit) := by
    have hcommand := h.command
    rwa [hscript] at hcommand
  have hahead := hstandard.ahead_pos hc
  have hown := Script.plan_hitsBefore (Script.plan_of_ofLines hr hs) hc
  refine ⟨hahead, hown, fun hlt now => ?_⟩
  obtain ⟨deadline, next, hphase⟩ := Play.phase_of_deadline? h.waiting
  rw [h.place] at hphase
  have hpass : ((Play.start script goal progress).after moments n).phase.pass? = some pass := by
    rw [hphase]
    rfl
  have hstep : ((Play.start script goal progress).after moments n).phase.step? = some step := by
    rw [hphase]
    rfl
  obtain ⟨moved, hcursor⟩ := Play.atCursor_after hstandard goal progress hm n hpass hstep
  obtain ⟨note, hlast, hbegun⟩ := Option.bind_eq_some_iff.1 h.begun
  obtain rfl : moved = false := hcursor.waits note hlast (Note.awaitsTimer_of_waitBegun? hbegun)
  have hcount := script.cursor_eq step
  have hshown := hcursor.nextPlanned? hahead (by omega) script.plan
  refine ⟨?_, fun hone => ?_⟩
  · rw [Progress.remainingFrames?_eq, Play.progress, hshown]
  · rw [Progress.remainingFrames?_eq, Play.progress, hshown, hone, Nat.sub_self, Nat.add_zero, hown,
      Option.map_some]

def hitTwice (timer : Label) : Script :=
  .ofEntries [(0, .start ⟨some timer⟩), (1, .hit ⟨.a, 1, timer, 1, none⟩),
    (2, .hit ⟨.b, 60, timer, 200, none⟩)]

/-- One start before: the second hit finds its own frames. -/
theorem remainingFrames_waiting_hitTwice :
    Script.ofLines .builtin ["Start -s=0", "Hit A 1 -d=1", "Hit B 60"] = .ok (hitTwice 0) ∧
      (hitTwice 0).ahead 2 = 1 ∧
      ((Play.start (hitTwice 0) .once {}).after (Moment.ticks 100) 26).AwaitsHit
        ((Play.start (hitTwice 0) .once {}).notes (Moment.ticks 100) 26) 0 2
        ⟨.b, 60, 0, 200, none⟩ ∧
      ((Play.start (hitTwice 0) .once {}).after (Moment.ticks 100) 26).progress.remainingFrames?
        (hitTwice 0).plan (.ofMillis 500) = some 31 := by
  have hread : Script.ofLines .builtin ["Start -s=0", "Hit A 1 -d=1", "Hit B 60"] =
      .ok (hitTwice 0) := rfl
  have hahead : (hitTwice 0).ahead 2 = 1 := by decide +kernel
  have hwaits : ((Play.start (hitTwice 0) .once {}).after (Moment.ticks 100) 26).AwaitsHit
      ((Play.start (hitTwice 0) .once {}).notes (Moment.ticks 100) 26) 0 2
      ⟨.b, 60, 0, 200, none⟩ := by
    obtain ⟨hscript, -⟩ := (Play.start (hitTwice 0) .once {}).after_same (Moment.ticks 100) 26
    refine ⟨?_, by decide +kernel, by decide +kernel, by decide +kernel⟩
    rw [hscript]
    rfl
  obtain ⟨-, -, hshown⟩ := remainingFrames_waiting (.inl rfl) hread .once {} (steady_ticks 100) 26
    rfl hwaits
  obtain ⟨-, hown⟩ := hshown (by decide +kernel) (.ofMillis 500)
  refine ⟨hread, hahead, hwaits, ?_⟩
  rw [hown hahead]
  decide +kernel

/-- Two starts before a hit: the first one for its timer, and the second without one. -/
def startedTwice (timer : Label) : Script :=
  .ofEntries [(0, .start ⟨some timer⟩), (1, .start ⟨none⟩), (2, .hit ⟨.a, 60, timer, 200, none⟩)]

/-- The hit is planned and waits, and yet no frames remain. -/
theorem remainingFrames_startedTwice :
    Script.ofLines .builtin ["Start -s=0", "Start", "Hit A 60"] = .ok (startedTwice 0) ∧
      (startedTwice 0).plan[0]? = some ⟨0, 60⟩ ∧
      ∃ play, (Play.start (startedTwice 0) .once {}).after (Moment.ticks 100) 9 = play ∧
        play.AwaitsHit ((Play.start (startedTwice 0) .once {}).notes (Moment.ticks 100) 9) 0 2
          ⟨.a, 60, 0, 200, none⟩ ∧
        ∀ now, play.progress.remainingFrames? (startedTwice 0).plan now = none := by
  refine ⟨rfl, by decide +kernel, _, rfl, ⟨rfl, rfl, rfl, rfl⟩, fun now => ?_⟩
  have hnone : ((Play.start (startedTwice 0) .once {}).after (Moment.ticks 100)
      9).progress.nextPlanned? (startedTwice 0).plan = none := by decide +kernel
  rw [Progress.remainingFrames?_eq, hnone, Option.map_none]

end PadScript
