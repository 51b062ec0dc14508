import PadScript.Proofs.Play.Driving
import PadScript.Tool

/-!
# The tool and a device that may refuse

On a bench the device keeps what it was given, whether it took it or not, and answers each
write as it likes. The tool does there what a drive does in front of the device (`tracks`),
and the device is given what the play writes and, once the play is over, one frame more,
which releases everything. That also comes after a release that was refused
(`output_closed`).
-/

namespace PadScript

-- ---------------------------------------------------------------------------
-- The bench
-- ---------------------------------------------------------------------------

structure Bench where
  looks : Nat := 0
  attempts : List (List UInt8) := []

/-- A machine with a bench. There is something outside at each look, and the device has an
answer to each write, counted from 1. -/
def OnBench (_outside : Nat → Outside) (_answers : Nat → Option Fault) (α : Type) : Type :=
  StateM Bench α

variable {outside : Nat → Outside} {answers : Nat → Option Fault}

instance : Monad (OnBench outside answers) := inferInstanceAs (Monad (StateM Bench))

instance : Platform (OnBench outside answers) where
  Device := Unit
  readText _ := pure (.error .notFound)
  writeText _ _ := pure (.ok ())
  makeFolders _ := pure (.ok ())
  openDevice _ := pure (.ok ())
  writeDevice _ bytes := fun bench =>
    (match answers (bench.attempts.length + 1) with
      | none => .ok ()
      | some fault => .error fault,
    { bench with attempts := bench.attempts ++ [bytes] })
  workFolder := pure "/"
  appendText _ _ := pure (.ok ())
  timeOfDay := pure ⟨0, 0, 0⟩
  outside := fun bench => (outside bench.looks, { bench with looks := bench.looks + 1 })
  rest _ := pure ()
  print _ := pure ()
  printError _ := pure ()

abbrev BenchTool (outside : Nat → Outside) (answers : Nat → Option Fault) : Type :=
  Tool (Tool.Device (OnBench outside answers))

namespace OnBench

theorem run_bind (x : OnBench outside answers α) (f : α → OnBench outside answers β)
    (bench : Bench) : (x >>= f) bench = f (x bench).1 (x bench).2 := rfl

theorem rest_run (deadline : Time) (bench : Bench) :
    (Platform.rest deadline : OnBench outside answers Unit) bench = ((), bench) := rfl

theorem outside_run (bench : Bench) :
    (Platform.outside : OnBench outside answers Outside) bench =
      (outside bench.looks, { bench with looks := bench.looks + 1 }) := rfl

theorem writeDevice_run (bytes : List UInt8) (bench : Bench) :
    (FileSystem.writeDevice () bytes : OnBench outside answers _) bench =
      (match answers (bench.attempts.length + 1) with
        | none => .ok ()
        | some fault => .error fault,
      { bench with attempts := bench.attempts ++ [bytes] }) := rfl

theorem note_run (journal : Journal) (entry : LogEntry) (bench : Bench) :
    (journal.note entry : OnBench outside answers Unit) bench = ((), bench) := by
  unfold Journal.note
  cases journal.echo <;> rfl

theorem noteAll_run (journal : Journal) (entries : List LogEntry) (bench : Bench) :
    (journal.noteAll entries : OnBench outside answers Unit) bench = ((), bench) := by
  induction entries generalizing bench with
  | nil => rfl
  | cons entry rest ih =>
    refine (run_bind (journal.note entry) (fun _ => journal.noteAll rest) bench).trans ?_
    rw [note_run]
    exact ih bench

theorem noteLogged_run (journal : Journal) (tool : BenchTool outside answers) (event : Option Event)
    (bench : Bench) :
    (match event with
      | some (.logged entry) => journal.note entry >>= fun _ => pure tool
      | _ => pure tool : OnBench outside answers (BenchTool outside answers)) bench =
        (tool, bench) := by
  cases event with
  | none => rfl
  | some event =>
    cases event with
    | logged entry =>
      refine (run_bind (journal.note entry) (fun _ => pure tool) bench).trans ?_
      rw [note_run]
      rfl
    | _ => rfl

end OnBench

open OnBench

-- ---------------------------------------------------------------------------
-- One action of the tool
-- ---------------------------------------------------------------------------

theorem Play.advance_of_noWrite {play : Play} (h : play.pendingWrite? = none) (outside : Outside)
    (refusal other : Option Fault) :
    play.advance { outside with refusal } = play.advance { outside with refusal := other } := by
  obtain ⟨script, goal, context, phase⟩ := play
  cases phase with
  | acting pass step routine =>
    cases routine with
    | act action next =>
      cases action with
      | write bytes => cases h
      | _ => rfl
    | _ => rfl
  | _ => rfl

theorem Drive.advance_facing (play : Play) (outside : Outside) (output : Nat → Option Fault)
    (writes : Nat) :
    (playing play).advance
        { outside with refusal := play.pendingWrite?.bind fun _ => output (writes + 1) } none =
      (playing play).advance (Play.facing outside output writes) none := by
  cases h : play.pendingWrite? with
  | some bytes => rfl
  | none =>
    simp only [advance, Play.facing, Option.bind_none]
    rw [Play.advance_of_noWrite h outside none (output (writes + 1))]

def deviceClosing (path : String) (answer : Option Fault) : Option Report :=
  answer.map fun fault => ⟨["releasing buttons on " ++ path], fault.text⟩

def exitStatus : Except Report Outcome → UInt32
  | .ok _ => 0
  | .error _ => 1

namespace Tool

variable (journal : Journal) (path : String) (bench : Bench)

theorem writePending_run (play : Play) :
    (writePending journal (.device path ()) play : OnBench outside answers _) bench =
      ((.device path (), play.pendingWrite?.bind fun _ => answers (bench.attempts.length + 1)),
        { bench with attempts := bench.attempts ++ play.pendingWrite?.toList }) := by
  unfold writePending
  cases play.pendingWrite? with
  | none =>
    rw [Option.toList_none, List.append_nil]
    rfl
  | some bytes =>
    simp only [Output.write, run_bind, writeDevice_run, Option.bind_some, Option.toList_some]
    cases answers (bench.attempts.length + 1) <;> rfl

theorem step_playing (play : Play) :
    (step (.driving journal (.device path ()) (.playing play)) :
        OnBench outside answers (BenchTool outside answers)) bench =
      (.driving journal (.device path ())
        ((Drive.playing play).advance
          (Play.facing (outside bench.looks) answers bench.attempts.length) none).1,
        ⟨bench.looks + 1, bench.attempts ++ play.pendingWrite?.toList⟩) := by
  simp only [step]
  -- A tool that waits lets some time pass first, which changes nothing here.
  cases play.deadline?
  all_goals
    simp only [run_bind, rest_run, writePending_run, outside_run, Drive.advance_facing]
    exact noteLogged_run journal _ _ _

theorem step_closing (result : Except Fault Outcome) :
    (step (.driving journal (.device path ()) (.closing result)) :
        OnBench outside answers (BenchTool outside answers)) bench =
      (.driving journal (.device path ()) (.finished (Drive.report result
          (deviceClosing path (answers (bench.attempts.length + 1))))),
        ⟨bench.looks + 1, bench.attempts ++ [Buttons.released.frame]⟩) := by
  simp only [step, Output.close, run_bind, writeDevice_run]
  cases answers (bench.attempts.length + 1) with
  | none =>
    simp only [noteAll_run, outside_run]
    rfl
  | some fault => rfl

theorem step_finished (output : Output (Device (OnBench outside answers)))
    (result : Except Report Outcome) :
    (step (.driving journal output (.finished result)) :
        OnBench outside answers (BenchTool outside answers)) bench =
      (.exited (exitStatus result), bench) := by
  cases result with
  | error report => rfl
  | ok outcome =>
    simp only [step, run_bind, note_run]
    rfl

-- ---------------------------------------------------------------------------
-- All actions of the tool
-- ---------------------------------------------------------------------------

def actions {m : Type → Type} [Monad m] [Platform m] (tool : Tool (Device m)) :
    Nat → m (Tool (Device m))
  | 0 => pure tool
  | n + 1 => tool.actions n >>= step

end Tool

theorem Play.facingOutput_eq (play : Play) (outside : Nat → Outside) (output : Nat → Option Fault)
    (n : Nat) : play.facingOutput outside output n =
      facing (outside n) output (play.attempts (play.facingOutput outside output) n).length := by
  rw [facingOutput, counted_eq]

theorem Play.attempts_of_result? {play : Play} {moments : Nat → Moment} {n m : Nat}
    {run : Except Fault Outcome} (h : (play.after moments n).result? = some run) (hnm : n ≤ m) :
    play.attempts moments m = play.attempts moments n := by
  rw [attempts, (after_finished h hnm).2.1, attempts]

def Play.deviceClosings (play : Play) (path : String) (outside : Nat → Outside)
    (answers : Nat → Option Fault) (n : Nat) : Option Report :=
  deviceClosing path
    (answers ((play.attempts (play.facingOutput outside answers) n).length + 1))

/-- What a device is given in all: what the play attempts and, once it is closed, a last frame. -/
def Drive.given (drive : Drive) (attempts : List (List UInt8)) : List (List UInt8) :=
  match drive with
  | .playing _ | .closing _ => attempts
  | .finished _ => attempts ++ [Buttons.released.frame]

theorem Drive.given_advance_playing (play : Play) (moment : Moment) (closing : Option Report)
    (attempts : List (List UInt8)) :
    ((playing play).advance moment closing).1.given attempts = attempts := by
  cases h : play.result? with
  | none => simp [advance, h, given]
  | some result => simp [advance, h, given]

/-- After so many actions the tool is where the drive is, or has exited when it was finished. -/
structure Tracks (journal : Journal) (path : String) (attempts : List (List UInt8)) (n : Nat)
    (drive : Drive) (reached : BenchTool outside answers × Bench) : Prop where
  given : reached.2.attempts = drive.given attempts
  place : reached.1 = .driving journal (.device path ()) drive ∧ reached.2.looks = n ∨
    ∃ result, drive = .finished result ∧ reached.1 = .exited (exitStatus result)

section Tracks

variable {journal : Journal} {path : String} {play : Play} {n : Nat}

theorem Tracks.succ {drive : Drive} {seen : List Event} {tool : BenchTool outside answers}
    {bench : Bench}
    (hcourse : Drive.Course play (play.facingOutput outside answers)
      (play.deviceClosings path outside answers) n drive seen)
    (h : Tracks journal path (play.attempts (play.facingOutput outside answers) n) n drive
      (tool, bench)) :
    Tracks journal path (play.attempts (play.facingOutput outside answers) (n + 1)) (n + 1)
      (drive.advance (play.facingOutput outside answers n)
        (play.deviceClosings path outside answers n)).1
      ((Tool.step tool : OnBench outside answers _) bench) := by
  obtain ⟨hgiven, hplace⟩ := h
  cases hcourse with
  | playing =>
    obtain ⟨rfl, hlooks⟩ | ⟨_, h, -⟩ := hplace
    · have hbench : bench.attempts = play.attempts (play.facingOutput outside answers) n := hgiven
      -- What is seen and answered now is the play's next moment in front of the device.
      have hmoment : Play.facing (outside bench.looks) answers bench.attempts.length =
          play.facingOutput outside answers n := by
        rw [show bench.looks = n from hlooks, hbench]
        exact (play.facingOutput_eq outside answers n).symm
      rw [Tool.step_playing, hmoment]
      refine ⟨?_, .inl ⟨rfl, congrArg (· + 1) hlooks⟩⟩
      rw [Drive.given_advance_playing, Play.attempts_succ, Play.attempt?_advance, ← hbench]
    · cases h
  | @closing ran run hrun =>
    obtain ⟨rfl, hlooks⟩ | ⟨_, h, -⟩ := hplace
    · have hbench : bench.attempts = play.attempts (play.facingOutput outside answers) (ran + 1) :=
        hgiven
      rw [Tool.step_closing]
      refine ⟨?_, .inl ⟨?_, congrArg (· + 1) hlooks⟩⟩
      · rw [Play.attempts_of_result? hrun (Nat.le_add_right ran 2),
          ← Play.attempts_of_result? hrun (Nat.le_succ ran), ← hbench]
        rfl
      · rw [hbench]
        rfl
    · cases h
  | @finished ran _ run hrun hlt =>
    have hattempts : play.attempts (play.facingOutput outside answers) (n + 1) =
        play.attempts (play.facingOutput outside answers) n :=
      (Play.attempts_of_result? hrun (by omega)).trans
        (Play.attempts_of_result? hrun (by omega)).symm
    obtain ⟨rfl, -⟩ | ⟨result, hfinished, rfl⟩ := hplace
    · rw [Tool.step_finished, hattempts]
      exact ⟨hgiven, .inr ⟨_, rfl, rfl⟩⟩
    · rw [hattempts]
      exact ⟨hgiven, .inr ⟨result, hfinished, rfl⟩⟩

end Tracks

theorem tracks (journal : Journal) (path : String) (play : Play) (n : Nat) :
    let moments := play.facingOutput outside answers
    let closings := play.deviceClosings path outside answers
    Tracks journal path (play.attempts moments n) n
      ((Drive.playing play).after moments closings n)
      (((Tool.driving journal (.device path ()) (.playing play)).actions n :
        OnBench outside answers _) {}) := by
  intro moments closings
  induction n with
  | zero => exact ⟨rfl, .inl ⟨rfl, rfl⟩⟩
  | succ n ih => exact ih.succ (Drive.course_after play moments closings n)

-- ---------------------------------------------------------------------------
-- However a play ends
-- ---------------------------------------------------------------------------

/-- However a play of a standard script ends, its output is closed once and after the last write.
What is told is the outcome of the play if no write was refused and the output could be closed,
the fault of the write that was refused whether or not it could, and else why it could not. A
device is given a last frame that releases everything, whatever it has answered before. -/
theorem output_closed {registry : Registry} {source : List String} {script : Script}
    (hr : registry.Standard) (hs : Script.ofLines registry source = .ok script) (goal : Goal)
    (progress : Progress) :
    let play := Play.start script goal progress
    (∀ (moments : Nat → Moment) (closings : Nat → Option Report), Steady moments →
      let drive := (Drive.playing play).after moments closings
      let seen := (Drive.playing play).events moments closings
      (∀ n, (play.events moments n).filterMap Event.closing? = [] ∧
        match drive n with
        | .playing _ | .closing _ => seen n = play.events moments n
        | .finished result => ∃ run closing, (play.after moments n).result? = some run ∧
          (∀ fault, run = .error fault ↔
            ∃ bytes, .refused bytes fault ∈ play.events moments n) ∧
          seen n = play.events moments n ++ [.closed closing] ∧ Drive.Told run closing result) ∧
      ((∀ time, ∃ n, time ≤ (moments n).now) →
        (goal.passes? = none → ∃ n, (moments n).stopRequested = true) →
        ∃ n result, drive n = .finished result)) ∧
    ∀ (journal : Journal) (path : String) (outside : Nat → Outside) (answers : Nat → Option Fault)
      (n : Nat),
      let moments := play.facingOutput outside answers
      let drive := (Drive.playing play).after moments (play.deviceClosings path outside answers) n
      let reached := ((Tool.driving journal (.device path ()) (.playing play)).actions n :
        OnBench outside answers _) {}
      Tracks journal path (play.attempts moments n) n drive reached ∧
      ∀ result, drive = .finished result →
        reached.2.attempts = play.attempts moments n ++ [Buttons.released.frame] := by
  intro play
  have hstandard : script.Standard := Script.standard_of_ofLines hr hs
  refine ⟨fun moments closings hm => ⟨fun n => ⟨Drive.closings_events _ _ _, ?_⟩, ?_⟩, ?_⟩
  · have hseen := Drive.seen_after play moments closings n
    cases hdrive : (Drive.playing play).after moments closings n with
    | playing | closing =>
      rw [hdrive] at hseen
      exact hseen
    | finished result =>
      rw [hdrive] at hseen
      obtain ⟨run, closing, hrun, hevents, htold⟩ := hseen
      refine ⟨run, closing, hrun, fun fault => ?_, hevents, htold⟩
      rw [← failed_iff_refused hstandard hm, hrun, Option.some.injEq]
  · intro hclock hstop
    obtain ⟨n, run, hrun⟩ := play.ends hm hclock hstop
    exact Drive.finishes closings hrun
  · intro journal path outside answers n moments drive reached
    have htracks : Tracks journal path (play.attempts moments n) n drive reached :=
      tracks journal path play n
    refine ⟨htracks, fun result hfinished => ?_⟩
    rw [htracks.given, hfinished]
    rfl

/-- The device is unplugged while a button is held: the release is refused, and so is the one with
which the device is closed. -/
theorem output_closed_unplugged :
    Script.ofLines .builtin ["Press A,X -d=1"] =
        .ok (.ofEntries [(0, .press ⟨[Buttons.a, Buttons.x], 1, 0, none⟩)]) ∧
      let play := Play.start (.ofEntries [(0, .press ⟨[Buttons.a, Buttons.x], 1, 0, none⟩)])
        (.repeated (-1)) {}
      let outside (n : Nat) : Outside := (Moment.ticks 5 n).toOutside
      let moments := play.facingOutput outside unplugged
      let closings := play.deviceClosings "pad" outside unplugged
      Steady moments ∧
      (Drive.playing play).after moments closings 9 =
        .finished (.error ⟨["output failed"], "unplugged"⟩) ∧
      (Drive.playing play).events moments closings 9 =
        [.wrote Buttons.a.frame, .refused Buttons.released.frame ⟨.brokenPipe, "unplugged"⟩,
          .closed (some ⟨["releasing buttons on pad"], "unplugged"⟩)] ∧
      (((Tool.driving ⟨"log", false⟩ (.device "pad" ()) (.playing play)).actions 9 :
        OnBench outside unplugged _) {}).2.attempts =
          [Buttons.a.frame, Buttons.released.frame, Buttons.released.frame] := by
  have hread : Script.ofLines .builtin ["Press A,X -d=1"] =
      .ok (.ofEntries [(0, .press ⟨[Buttons.a, Buttons.x], 1, 0, none⟩)]) := by rfl
  refine ⟨hread, ?_⟩
  intro play outside moments closings
  have hm : Steady moments := ⟨(steady_ticks 5).clock, (steady_ticks 5).stop⟩
  have hseen : (Drive.playing play).events moments closings 9 =
      [.wrote Buttons.a.frame, .refused Buttons.released.frame ⟨.brokenPipe, "unplugged"⟩,
        .closed (some ⟨["releasing buttons on pad"], "unplugged"⟩)] := by
    decide +kernel
  have hattempts : play.attempts moments 9 = [Buttons.a.frame, Buttons.released.frame] := by
    decide +kernel
  obtain ⟨hclosed, hdevice⟩ := output_closed (.inl rfl) hread (.repeated (-1)) {}
  obtain ⟨hplay, hnine⟩ := (hclosed moments closings hm).1 9
  have hunfinished : (Drive.playing play).events moments closings 9 ≠ play.events moments 9 := by
    intro he
    rw [← he, hseen] at hplay
    cases hplay
  cases hdrive : (Drive.playing play).after moments closings 9 with
  | playing | closing =>
    rw [hdrive] at hnine
    exact absurd hnine hunfinished
  | finished result =>
    rw [hdrive] at hnine
    obtain ⟨run, closing, -, hfailed, hevents, htold⟩ := hnine
    have hplayed := List.append_inj_left' (hevents.symm.trans hseen : _ = [_, _] ++ [_]) rfl
    have hrun : run = .error ⟨.brokenPipe, "unplugged"⟩ := by
      rw [hfailed, hplayed]
      exact ⟨Buttons.released.frame, by simp⟩
    have hgiven := (hdevice ⟨"log", false⟩ "pad" outside unplugged 9).2 result hdrive
    rw [hattempts] at hgiven
    exact ⟨hm, by rw [htold.runFailed _ hrun], hseen, hgiven⟩

end PadScript
