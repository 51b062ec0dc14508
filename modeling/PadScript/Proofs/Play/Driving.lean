import PadScript.Drive
import PadScript.Proofs.Play.Refusal

/-!
# A play and the end of its output

A drive does what its play does, then closes the output, then rests. So the output is closed
once, as the last thing that is seen, and no write comes after it, however the play ended
(`Drive.course_after`). What is reported is how the play ended if it failed, else how closing
went (`Drive.told_report`), and a play of standard commands has failed exactly when a write
was refused (`failed_iff_refused`).
-/

namespace PadScript

def Event.closing? : Event → Option (Option Report)
  | .closed failure => some failure
  | _ => none

namespace Drive

def after (drive : Drive) (moments : Nat → Moment) (closings : Nat → Option Report) : Nat → Drive
  | 0 => drive
  | n + 1 => ((drive.after moments closings n).advance (moments n) (closings n)).1

def events (drive : Drive) (moments : Nat → Moment) (closings : Nat → Option Report) :
    Nat → List Event
  | 0 => []
  | n + 1 => drive.events moments closings n ++
      ((drive.after moments closings n).advance (moments n) (closings n)).2.toList

-- ---------------------------------------------------------------------------
-- What is done
-- ---------------------------------------------------------------------------

variable {play : Play} {moments : Nat → Moment} {closings : Nat → Option Report} {n : Nat}

/-- What the drive of a play comes to after some moments, and what was seen of it. -/
inductive Course (play : Play) (moments : Nat → Moment) (closings : Nat → Option Report) :
    Nat → Drive → List Event → Prop
  | playing (n : Nat) :
      Course play moments closings n (.playing (play.after moments n)) (play.events moments n)
  | closing {ran : Nat} {result : Except Fault Outcome}
      (hresult : (play.after moments ran).result? = some result) :
      Course play moments closings (ran + 1) (.closing result) (play.events moments ran)
  | finished {ran n : Nat} {result : Except Fault Outcome}
      (hresult : (play.after moments ran).result? = some result) (hlt : ran + 1 < n) :
      Course play moments closings n (.finished (report result (closings (ran + 1))))
        (play.events moments ran ++ [.closed (closings (ran + 1))])

theorem Course.succ {drive : Drive} {events : List Event}
    (h : Course play moments closings n drive events) :
    Course play moments closings (n + 1) (drive.advance (moments n) (closings n)).1
      (events ++ (drive.advance (moments n) (closings n)).2.toList) := by
  cases h with
  | playing =>
    cases hresult : (play.after moments n).result? with
    | some result =>
      simp only [advance, hresult, Option.toList_none, List.append_nil]
      exact .closing hresult
    | none =>
      simp only [advance, hresult]
      exact .playing (n + 1)
  | @closing ran result hresult => exact .finished hresult (Nat.lt_succ_self _)
  | @finished ran _ result hresult hlt =>
    simp only [advance, Option.toList_none, List.append_nil]
    exact .finished hresult (Nat.lt_succ_of_lt hlt)

theorem course_after (play : Play) (moments : Nat → Moment) (closings : Nat → Option Report)
    (n : Nat) : Course play moments closings n ((playing play).after moments closings n)
      ((playing play).events moments closings n) := by
  induction n with
  | zero => exact .playing 0
  | succ n ih => exact ih.succ

theorem finishes {run : Except Fault Outcome} (closings : Nat → Option Report)
    (h : (play.after moments n).result? = some run) :
    ∃ m result, (playing play).after moments closings m = .finished result := by
  have hclosed {m : Nat} {result : Except Fault Outcome}
      (hclosing : (playing play).after moments closings m = .closing result) :
      ∃ m result, (playing play).after moments closings m = .finished result :=
    ⟨m + 1, _, by rw [after, hclosing, advance]⟩
  have hcourse := course_after play moments closings n
  generalize hdrive : (playing play).after moments closings n = drive at hcourse
  generalize (playing play).events moments closings n = seen at hcourse
  cases hcourse with
  | playing =>
    have hclosing : (playing play).after moments closings (n + 1) = .closing run := by
      simp only [after, hdrive, advance, h]
    exact hclosed hclosing
  | closing => exact hclosed hdrive
  | finished => exact ⟨n, _, hdrive⟩

theorem closings_events (play : Play) (moments : Nat → Moment) (n : Nat) :
    (play.events moments n).filterMap Event.closing? = [] := by
  induction n with
  | zero => rfl
  | succ n ih =>
    rw [Play.events, List.filterMap_append, ih, List.nil_append]
    cases hevent : ((play.after moments n).advance (moments n)).2 with
    | none => rfl
    | some event =>
      cases event with
      | closed failure => exact absurd hevent (Play.advance_ne_closed _ _ failure)
      | _ => rfl

-- ---------------------------------------------------------------------------
-- What is reported
-- ---------------------------------------------------------------------------

/-- What is to be told when a play ended so and the output answered so to being closed. -/
structure Told (run : Except Fault Outcome) (closing : Option Report)
    (result : Except Report Outcome) : Prop where
  ok : ∀ outcome, result = .ok outcome ↔ run = .ok outcome ∧ closing = none
  runFailed : ∀ fault, run = .error fault → result = .error ⟨["output failed"], fault.text⟩
  closeFailed : ∀ outcome failure, run = .ok outcome → closing = some failure →
    result = .error failure

theorem told_report (run : Except Fault Outcome) (closing : Option Report) :
    Told run closing (report run closing) := by
  cases run with
  | error fault => exact ⟨by simp [report], fun _ h => by cases h; rfl, by simp⟩
  | ok outcome =>
    cases closing with
    | none => exact ⟨by simp [report], by simp, by simp⟩
    | some failure => exact ⟨by simp [report], by simp, fun _ _ _ h => by cases h; rfl⟩

theorem seen_after (play : Play) (moments : Nat → Moment) (closings : Nat → Option Report)
    (n : Nat) :
    match (playing play).after moments closings n with
    | .playing _ | .closing _ => (playing play).events moments closings n = play.events moments n
    | .finished result => ∃ run closing, (play.after moments n).result? = some run ∧
        (playing play).events moments closings n = play.events moments n ++ [.closed closing] ∧
        Told run closing result := by
  have hcourse := course_after play moments closings n
  generalize (playing play).after moments closings n = drive at hcourse
  generalize (playing play).events moments closings n = seen at hcourse
  cases hcourse with
  | playing => rfl
  | closing hrun => exact (Play.after_finished hrun (Nat.le_succ _)).2.1.symm
  | finished hrun hlt =>
    obtain ⟨hafter, hevents, -⟩ := Play.after_finished hrun (Nat.le_of_lt (Nat.lt_of_succ_lt hlt))
    exact ⟨_, _, by rw [hafter, hrun], by rw [hevents], told_report _ _⟩

end Drive

-- ---------------------------------------------------------------------------
-- Which plays fail
-- ---------------------------------------------------------------------------

theorem Play.failed_of_refused {play : Play} {moments : Nat → Moment} {n : Nat}
    {bytes : List UInt8} {fault : Fault} (h : .refused bytes fault ∈ play.events moments n) :
    (play.after moments n).result? = some (.error fault) := by
  induction n with
  | zero => cases h
  | succ n ih =>
    rcases List.mem_append.1 h with hearlier | hnow
    · have hover := ih hearlier
      rw [(after_finished hover (Nat.le_succ n)).1, hover]
    · obtain ⟨hpending, hrefusal⟩ := refusal_of_advance (Option.mem_toList.1 hnow)
      rw [after, (advance_of_refusal hpending hrefusal).1, result?_finish]

theorem failed_iff_refused {script : Script} (hs : script.Standard) {goal : Goal}
    {progress : Progress} {moments : Nat → Moment} (hm : Steady moments) {n : Nat} {fault : Fault} :
    ((Play.start script goal progress).after moments n).result? = some (.error fault) ↔
      ∃ bytes, .refused bytes fault ∈ (Play.start script goal progress).events moments n := by
  refine ⟨fun h => ?_, fun ⟨bytes, h⟩ => Play.failed_of_refused h⟩
  obtain ⟨_, earlier, note, bytes, -, hnotes, hdeed, -⟩ := rejected_of_result? hs hm h
  obtain ⟨fault', hmem⟩ := Play.refused_notes (by rw [hnotes]; simp) hdeed
  obtain rfl : fault' = fault := by
    simpa using (Play.failed_of_refused hmem).symm.trans h
  exact ⟨bytes, hmem⟩

end PadScript
