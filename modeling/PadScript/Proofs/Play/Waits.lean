import Mathlib.Data.List.Induction
import PadScript.Proofs.Play.Outline

/-!
# Waits and what they count from

Whoever uses timers calls them again and again, and a wait looks outside until it has an answer.
What was done is enough to tell from when the next wait will count: the delay timer from its
latest restart, a label from its own, and neither from anything done to the others
(`TimerUse.shows_after?`). So a wait answers that it was cut short exactly if it saw that it
should be, and otherwise not before its time has passed (`waits_keep_time`). Plays use their
timers in this way, whatever their commands are.
-/

namespace PadScript

-- ---------------------------------------------------------------------------
-- Using timers
-- ---------------------------------------------------------------------------

inductive TimerWait
  /-- A time on the delay timer, counted from now if `fresh`, else from its latest restart. -/
  | delay (ms : UInt64) (fresh : Bool)
  | timer (label : Label) (ms : UInt64)
  deriving DecidableEq, Repr

def TimerWait.ms : TimerWait → UInt64
  | .delay ms _ | .timer _ ms => ms

inductive TimerCall
  | restart (label : Label)
  | restartDelay
  | wait (wait : TimerWait)
  deriving DecidableEq, Repr

/-- The timers once a call has come, and the deadline if it is a wait. -/
def Timers.call (timers : Timers) (now : Time) : TimerCall → Timers × Option Time
  | .restart label => (timers.restart label now, none)
  | .restartDelay => (timers.restartDelay now, none)
  | .wait (.delay ms fresh) =>
    ((timers.beginDelay ms.toNat fresh now).1, some (timers.beginDelay ms.toNat fresh now).2)
  | .wait (.timer label ms) => (timers, some (timers.deadlineOn label ms.toNat now))

namespace Timers

theorem restartedAt_call (timers : Timers) (now : Time) (call : TimerCall) (label : Label) :
    (timers.call now call).1.restartedAt label =
      if call = .restart label then some now else timers.restartedAt label := by
  cases call with
  | restart other =>
    by_cases h : other = label
    · subst h
      simp [call]
    · simp [call, h, restartedAt_restart_of_ne _ _ (Ne.symm h)]
  | restartDelay => simp [call]
  | wait wait => cases wait <;> simp [call]

theorem delay_call (timers : Timers) (now : Time) (call : TimerCall) :
    (timers.call now call).1.delay =
      match call with
      | .restartDelay => some now
      | .wait (.delay _ fresh) => some (if fresh then now else timers.delay.getD now)
      | _ => timers.delay := by
  cases call with
  | restart label => rfl
  | restartDelay => rfl
  | wait wait =>
    cases wait with
    | timer label ms => rfl
    | delay ms fresh => exact timers.delay_beginDelay _ _ _

end Timers

inductive TimerDeed
  | called (call : TimerCall)
  /-- A wait looked outside; the answer is there once it is over. -/
  | checked (answer : Option Bool)
  deriving DecidableEq, Repr

structure TimerNote extends Outside where
  deed : TimerDeed
  deriving DecidableEq, Repr

/-- Timers in use, with the deadline of the wait that is under way. -/
structure TimerUse where
  timers : Timers := {}
  deadline? : Option Time := none
  deriving DecidableEq

namespace TimerUse

/-- What a note makes of timers in use; `none` if it cannot be what was done next. A wait goes
on until it has an answer, and other calls come only then. -/
def next? (use : TimerUse) (note : TimerNote) : Option TimerUse :=
  match note.deed, use.deadline? with
  | .called call, none =>
    some ⟨(use.timers.call note.now call).1, (use.timers.call note.now call).2⟩
  | .checked answer, some deadline =>
    if answer = pollWait deadline note.toOutside then
      some { use with deadline? := if answer.isSome then none else some deadline }
    else none
  | _, _ => none

def after? (use : TimerUse) (notes : List TimerNote) : Option TimerUse := notes.foldlM next? use

end TimerUse

def Outside.Before (earlier later : Outside) : Prop :=
  earlier.now ≤ later.now ∧ (earlier.stopRequested = true → later.stopRequested = true)

/-- Notes under a clock that never goes back and a stop flag that nobody takes down. -/
def SteadyNotes (notes : List TimerNote) : Prop :=
  notes.Pairwise fun earlier later => earlier.toOutside.Before later.toOutside

-- ---------------------------------------------------------------------------
-- Restarts
-- ---------------------------------------------------------------------------

namespace TimerNote

def restarts (note : TimerNote) (label : Label) : Bool := note.deed = .called (.restart label)

/-- Whether the delay timer is restarted. A wait that is not fresh does so if it is the `first`
to need the timer. -/
def restartsDelay (note : TimerNote) (first : Bool) : Bool :=
  match note.deed with
  | .called .restartDelay => true
  | .called (.wait (.delay _ fresh)) => fresh || first
  | _ => false

end TimerNote

def labelRestarts (notes : List TimerNote) (label : Label) : List TimerNote :=
  notes.filter (·.restarts label)

def delayRestarts (notes : List TimerNote) : List TimerNote :=
  notes.foldl (fun restarts note =>
    if note.restartsDelay restarts.isEmpty then restarts ++ [note] else restarts) []

def latest (restarts : List TimerNote) : Option Time := restarts.getLast?.map (·.now)

/-- When what a wait counts began, given what was done before and when the wait was called. -/
def TimerWait.origin (wait : TimerWait) (before : List TimerNote) (called : Time) : Time :=
  match wait with
  | .delay _ true => called
  | .delay _ false => (latest (delayRestarts before)).getD called
  | .timer label _ => (latest (labelRestarts before label)).getD called

def TimerWait.due (wait : TimerWait) (before : List TimerNote) (called : Time) : Time :=
  wait.origin before called + Time.ofMillis wait.ms.toNat

section Restarts

variable {notes : List TimerNote} {note : TimerNote} {label : Label}

theorem labelRestarts_concat : labelRestarts (notes ++ [note]) label =
    if note.restarts label then labelRestarts notes label ++ [note]
    else labelRestarts notes label := by
  rw [labelRestarts, List.filter_append, ← labelRestarts]
  split <;> rename_i h <;> simp [h]

theorem delayRestarts_concat : delayRestarts (notes ++ [note]) =
    if note.restartsDelay (delayRestarts notes).isEmpty then delayRestarts notes ++ [note]
    else delayRestarts notes := by
  rw [delayRestarts, List.foldl_append, ← delayRestarts]
  rfl

@[simp] theorem latest_concat (restarts : List TimerNote) (note : TimerNote) :
    latest (restarts ++ [note]) = some note.now := by
  simp [latest]

end Restarts

-- ---------------------------------------------------------------------------
-- Timers and what was done with them
-- ---------------------------------------------------------------------------

namespace TimerUse

variable {use later : TimerUse} {notes : List TimerNote} {note : TimerNote}

theorem after?_append (use : TimerUse) (notes more : List TimerNote) :
    use.after? (notes ++ more) = (use.after? notes).bind (·.after? more) := List.foldlM_append

theorem after?_cons (use : TimerUse) (note : TimerNote) (notes : List TimerNote) :
    use.after? (note :: notes) = (use.next? note).bind (·.after? notes) := rfl

theorem next?_cases (h : use.next? note = some later) :
    (∃ call, note.deed = .called call ∧ use.deadline? = none ∧
      later.timers = (use.timers.call note.now call).1 ∧
      later.deadline? = (use.timers.call note.now call).2) ∨
    ∃ deadline, note.deed = .checked (pollWait deadline note.toOutside) ∧
      use.deadline? = some deadline ∧ later.timers = use.timers ∧
      later.deadline? =
        if (pollWait deadline note.toOutside).isSome then none else some deadline := by
  unfold next? at h
  split at h
  · rename_i call hdeed hnone
    cases h
    exact .inl ⟨call, hdeed, hnone, rfl, rfl⟩
  · rename_i answer deadline hdeed hsome
    split at h
    · rename_i hanswer
      subst hanswer
      cases h
      exact .inr ⟨deadline, hdeed, hsome, rfl, rfl⟩
    · cases h
  · cases h

theorem restartedAt_next? (h : use.next? note = some later) (label : Label) :
    later.timers.restartedAt label =
      if note.deed = .called (.restart label) then some note.now
      else use.timers.restartedAt label := by
  rcases next?_cases h with ⟨call, hdeed, -, htimers, -⟩ | ⟨deadline, hdeed, -, htimers, -⟩
  · rw [htimers, Timers.restartedAt_call, hdeed]
    simp
  · rw [htimers, hdeed, if_neg (by simp)]

structure Shows (use : TimerUse) (notes : List TimerNote) : Prop where
  delay : use.timers.delay = latest (delayRestarts notes)
  label : ∀ label, use.timers.restartedAt label = latest (labelRestarts notes label)

theorem Shows.next (h : use.Shows notes) (hnext : use.next? note = some later) :
    later.Shows (notes ++ [note]) := by
  constructor
  · rw [delayRestarts_concat, TimerNote.restartsDelay]
    rcases next?_cases hnext with ⟨call, hdeed, -, htimers, -⟩ | ⟨deadline, hdeed, -, htimers, -⟩
    · rw [htimers, Timers.delay_call, hdeed, h.delay]
      cases call with
      | restart label => rfl
      | restartDelay => exact (latest_concat _ _).symm
      | wait wait =>
        cases wait with
        | timer label ms => rfl
        | delay ms fresh =>
          -- A wait that is not fresh restarts the timer only when nothing else has.
          cases fresh with
          | true => exact (latest_concat _ _).symm
          | false =>
            generalize delayRestarts notes = restarts
            rcases List.eq_nil_or_concat restarts with rfl | ⟨earlier, last, rfl⟩ <;> simp [latest]
    · rw [htimers, hdeed]
      exact h.delay
  · intro label
    rw [labelRestarts_concat, restartedAt_next? hnext, h.label, TimerNote.restarts]
    by_cases hdeed : note.deed = .called (.restart label) <;> simp [hdeed]

theorem shows_after? (h : after? {} notes = some use) : use.Shows notes := by
  induction notes using List.reverseRecOn generalizing use with
  | nil =>
    cases h
    exact ⟨rfl, fun label => by simp [Timers.restartedAt, latest, labelRestarts]⟩
  | append_singleton notes note ih =>
    rw [after?_append] at h
    obtain ⟨earlier, hearlier, hnext⟩ := Option.bind_eq_some_iff.1 h
    rw [after?_cons] at hnext
    obtain ⟨later, hlater, hsame⟩ := Option.bind_eq_some_iff.1 hnext
    cases hsame
    exact (ih hearlier).next hlater

theorem Shows.deadline (h : use.Shows notes) (now : Time) (wait : TimerWait) :
    (use.timers.call now (.wait wait)).2 = some (wait.due notes now) := by
  cases wait with
  | timer label ms => rw [Timers.call, Timers.deadlineOn, h.label]; rfl
  | delay ms fresh =>
    rw [Timers.call, Timers.deadline_beginDelay, h.delay]
    cases fresh <;> rfl

end TimerUse

-- ---------------------------------------------------------------------------
-- Waits
-- ---------------------------------------------------------------------------

structure TimerNote.GoesOn (due : Time) (check : TimerNote) : Prop where
  unanswered : check.deed = .checked none
  unseen : check.stopRequested = false
  early : check.now < due

structure TimerNote.Ends (due : Time) (check : TimerNote) : Prop where
  answered : check.deed = .checked (some check.stopRequested)
  late : check.stopRequested = false → due ≤ check.now

def WaitNoted (due : Time) (checks rest : List TimerNote) : Prop :=
  (∀ check ∈ checks, check.GoesOn due) ∧ ∀ last later, rest = last :: later → last.Ends due

theorem goesOn_or_ends {deadline : Time} {note : TimerNote}
    (h : note.deed = .checked (pollWait deadline note.toOutside)) :
    pollWait deadline note.toOutside = none ∧ note.GoesOn deadline ∨ note.Ends deadline := by
  cases hpoll : pollWait deadline note.toOutside with
  | none =>
    obtain ⟨hunseen, hearly⟩ := pollWait_eq_none_iff.1 hpoll
    exact .inl ⟨rfl, h.trans (by rw [hpoll]), hunseen, hearly⟩
  | some answer =>
    obtain ⟨rfl, hover⟩ := pollWait_eq_some_iff.1 hpoll
    exact .inr ⟨h.trans (by rw [hpoll]), fun hunseen => hover.resolve_left (by simp [hunseen])⟩

theorem TimerUse.waitNoted {use later : TimerUse} {deadline : Time}
    (hwait : use.deadline? = some deadline) {notes : List TimerNote}
    (h : use.after? notes = some later) :
    ∃ checks rest, notes = checks ++ rest ∧ WaitNoted deadline checks rest := by
  induction notes generalizing use with
  | nil => exact ⟨[], [], rfl, by simp [WaitNoted]⟩
  | cons note notes ih =>
    rw [after?_cons] at h
    obtain ⟨next, hnext, hrest⟩ := Option.bind_eq_some_iff.1 h
    rcases next?_cases hnext with ⟨call, -, hnone, -⟩ | ⟨due, hdeed, hdue, -, hdeadline⟩
    · rw [hwait] at hnone
      cases hnone
    · obtain rfl : deadline = due := Option.some.inj (hwait.symm.trans hdue)
      rcases goesOn_or_ends hdeed with ⟨hpoll, hgoes⟩ | hends
      · rw [hpoll] at hdeadline
        obtain ⟨checks, rest, rfl, hchecks, hlast⟩ := ih hdeadline hrest
        exact ⟨note :: checks, rest, rfl, List.forall_mem_cons.2 ⟨hgoes, hchecks⟩, hlast⟩
      · refine ⟨[], note :: notes, rfl, by simp, fun last later hfirst => ?_⟩
        cases hfirst
        exact hends

/-- How a wait goes, after what was done before it: its checks while it goes on, and what comes
then, first of all the check at which it is over. -/
structure WaitGoes (before : List TimerNote) (call : TimerNote) (wait : TimerWait)
    (checks rest : List TimerNote) : Prop where
  goesOn : ∀ check ∈ checks, check.GoesOn (wait.due before call.now)
  /-- It is cut short exactly if it has seen a request to stop, and else it is due. -/
  answer : ∀ last later, rest = last :: later → ∃ stopped, last.deed = .checked (some stopped) ∧
    (stopped = true ↔ ∃ check ∈ checks ++ [last], check.stopRequested = true) ∧
    (stopped = false → wait.due before call.now ≤ last.now)
  /-- A request from before the call cuts it short at its first check, also when it is due. -/
  stopped : call.stopRequested = true →
    checks = [] ∧ ∀ last later, rest = last :: later → last.deed = .checked (some true)
  overdue : wait.due before call.now ≤ call.now → checks = []

structure Spares (note : TimerNote) (earlier later : Timers) : Prop where
  label : ∀ label, note.deed ≠ .called (.restart label) →
    later.restartedAt label = earlier.restartedAt label
  delay : ∀ label, note.deed = .called (.restart label) ∨
    (∃ ms, note.deed = .called (.wait (.timer label ms))) → later.delay = earlier.delay

structure TimersKept (notes : List TimerNote) : Prop where
  waits : ∀ before call wait after, notes = before ++ call :: after →
    call.deed = .called (.wait wait) →
    ∃ checks rest, after = checks ++ rest ∧ WaitGoes before call wait checks rest
  spares : ∀ before note after, notes = before ++ note :: after → ∃ earlier later,
    TimerUse.after? {} before = some earlier ∧ earlier.next? note = some later ∧
      Spares note earlier.timers later.timers

namespace TimerUse

variable {use later : TimerUse} {notes before after : List TimerNote} {note call : TimerNote}
  {wait : TimerWait}

theorem exists_next? (h : after? {} (before ++ note :: after) = some use) :
    ∃ earlier later, after? {} before = some earlier ∧ earlier.next? note = some later ∧
      later.after? after = some use := by
  rw [after?_append] at h
  obtain ⟨earlier, hearlier, h⟩ := Option.bind_eq_some_iff.1 h
  rw [after?_cons] at h
  obtain ⟨later, hlater, h⟩ := Option.bind_eq_some_iff.1 h
  exact ⟨earlier, later, hearlier, hlater, h⟩

theorem spares_next? (h : use.next? note = some later) : Spares note use.timers later.timers where
  label label hdeed := by rw [restartedAt_next? h, if_neg hdeed]
  delay label hdeed := by
    rcases next?_cases h with ⟨call, hcall, -, htimers, -⟩ | ⟨deadline, -, -, htimers, -⟩
    · rw [htimers, Timers.delay_call]
      rw [hcall] at hdeed
      rcases hdeed with hdeed | ⟨ms, hdeed⟩
      all_goals
        cases hdeed
        rfl
    · rw [htimers]

theorem waitGoes (h : after? {} (before ++ call :: after) = some use)
    (hs : SteadyNotes (before ++ call :: after)) (hcall : call.deed = .called (.wait wait)) :
    ∃ checks rest, after = checks ++ rest ∧ WaitGoes before call wait checks rest := by
  obtain ⟨earlier, later, hearlier, hlater, hafter⟩ := exists_next? h
  have hdue : later.deadline? = some (wait.due before call.now) := by
    rcases next?_cases hlater with ⟨other, hdeed, -, -, hdeadline⟩ | ⟨deadline, hdeed, -⟩
    · obtain rfl : TimerCall.wait wait = other := by simpa [hcall] using hdeed
      rw [hdeadline, (shows_after? hearlier).deadline]
    · rw [hcall] at hdeed
      cases hdeed
  obtain ⟨checks, rest, rfl, hchecks, hlast⟩ := waitNoted hdue hafter
  have hfollow := (List.pairwise_cons.1 (List.pairwise_append.1 hs).2.1).1
  refine ⟨checks, rest, rfl, hchecks, fun last later hfirst => ?_, fun hstop => ⟨?_, ?_⟩,
    fun hover => ?_⟩
  · have hends := hlast last later hfirst
    refine ⟨last.stopRequested, hends.answered, ⟨fun hseen => ⟨last, by simp, hseen⟩, ?_⟩,
      hends.late⟩
    rintro ⟨check, hcheck, hseen⟩
    rcases List.mem_append.1 hcheck with hcheck | hcheck
    · cases hseen.symm.trans (hchecks check hcheck).unseen
    · rwa [List.mem_singleton.1 hcheck] at hseen
  · cases checks with
    | nil => rfl
    | cons check checks =>
      have hseen := (hfollow check (by simp)).2 hstop
      cases hseen.symm.trans (hchecks check List.mem_cons_self).unseen
  · rintro last later rfl
    have hseen : last.stopRequested = true := (hfollow last (by simp)).2 hstop
    rw [(hlast last later rfl).answered, hseen]
  · cases checks with
    | nil => rfl
    | cons check checks =>
      have hearly := (hchecks check List.mem_cons_self).early
      have hlater := (hfollow check (by simp)).1
      exact absurd (Nat.le_trans hover hlater) (Nat.not_le.2 hearly)

theorem timersKept (h : after? {} notes = some use) (hs : SteadyNotes notes) :
    TimersKept notes where
  waits := by
    rintro before call wait after rfl hcall
    exact waitGoes h hs hcall
  spares := by
    rintro before note after rfl
    obtain ⟨earlier, later, hearlier, hlater, -⟩ := exists_next? h
    exact ⟨earlier, later, hearlier, hlater, spares_next? hlater⟩

end TimerUse

-- ---------------------------------------------------------------------------
-- Plays
-- ---------------------------------------------------------------------------

def Action.timerCall? : Action → Option TimerCall
  | .restartTimer label | .startTimer label => some (.restart label)
  | .restartDelay => some .restartDelay
  | .write _ | .nextHit | .store _ | .log _ | .signal _ => none

def Pause.timerWait : Pause → TimerWait
  | .delay ms fresh => .delay ms.toUInt64 fresh
  | .timer label ms => .timer label ms

namespace Play

def timerUse (play : Play) : TimerUse := ⟨play.context.timers, play.deadline?⟩

def timerDeed? (play : Play) (moment : Moment) : Option TimerDeed :=
  match play.phase with
  | .acting _ _ (.act action _) => action.timerCall?.map .called
  | .acting _ _ (.pause pause _) => some (.called (.wait pause.timerWait))
  | .waiting _ _ deadline _ => some (.checked (pollWait deadline moment.toOutside))
  | _ => none

def timerNote? (play : Play) (moment : Moment) : Option TimerNote :=
  (play.timerDeed? moment).map fun deed => ⟨moment.toOutside, deed⟩

def timerNotes (play : Play) (moments : Nat → Moment) : Nat → List TimerNote
  | 0 => []
  | n + 1 => play.timerNotes moments n ++
      ((play.after moments n).timerNote? (moments n)).toList

variable {play : Play} {moment : Moment}

theorem timerUse_advance (play : Play) (moment : Moment) :
    play.timerUse.after? (play.timerNote? moment).toList =
      some (play.advance moment).1.timerUse := by
  obtain ⟨script, goal, context, phase⟩ := play
  cases phase with
  | atPass pass =>
    simp only [advance, beginPass]
    split
    · rfl
    · split <;> rfl
  | atStep pass step =>
    simp only [advance, beginStep, endPass]
    split
    · cases goal <;> rfl
    · split
      · cases goal <;> rfl
      · rfl
  | acting pass step routine =>
    cases routine with
    | act action next =>
      cases action with
      | write bytes =>
        simp only [advance, act]
        split <;> rfl
      | _ => rfl
    | pause p next => cases p <;> rfl
    | _ => rfl
  | waiting pass step deadline next =>
    cases hpoll : pollWait deadline moment.toOutside <;>
      simp [timerUse, deadline?, advance, timerNote?, timerDeed?, TimerUse.after?, TimerUse.next?,
        hpoll]
  | ending => rfl
  | finished result => rfl

/-- A play uses its timers as anybody may, whatever its commands are. -/
theorem after?_timerNotes (play : Play) (hfresh : play.timerUse = {}) (moments : Nat → Moment)
    (n : Nat) : TimerUse.after? {} (play.timerNotes moments n) =
      some (play.after moments n).timerUse := by
  induction n with
  | zero => rw [timerNotes, after, hfresh]; rfl
  | succ n ih =>
    rw [timerNotes, TimerUse.after?_append, ih, Option.bind_some, timerUse_advance, after]

theorem told_of_waiting {pass step : Nat} {deadline : Time} {next : Bool → Routine Unit}
    (h : play.phase = .waiting pass step deadline next) (moment : Moment) : ∃ answer?,
    play.timerNote? moment = some ⟨moment.toOutside, .checked answer?⟩ ∧
      (play.advance moment).1.phase = match answer? with
        | some stopped => .acting pass step (next stopped)
        | none => .waiting pass step deadline next := by
  refine ⟨pollWait deadline moment.toOutside, by simp [timerNote?, timerDeed?, h], ?_⟩
  cases hpoll : pollWait deadline moment.toOutside <;> simp [advance, h, hpoll]

theorem outside_of_timerNote? {note : TimerNote} (h : play.timerNote? moment = some note) :
    note.toOutside = moment.toOutside := by
  obtain ⟨deed, -, rfl⟩ := Option.map_eq_some_iff.1 h
  rfl

theorem before_of_mem_timerNotes {moments : Nat → Moment} (hm : Steady moments) (play : Play)
    {n : Nat} {note : TimerNote} (h : note ∈ play.timerNotes moments n) :
    note.toOutside.Before (moments n).toOutside := by
  induction n with
  | zero => cases h
  | succ n ih =>
    have hbefore : note.toOutside.Before (moments n).toOutside := by
      rcases List.mem_append.1 h with h | h
      · exact ih h
      · rw [outside_of_timerNote? (Option.mem_toList.1 h)]
        exact ⟨Nat.le_refl _, id⟩
    exact ⟨Nat.le_trans hbefore.1 (hm.clock n), fun hs => hm.stop n (hbefore.2 hs)⟩

theorem steady_timerNotes {moments : Nat → Moment} (hm : Steady moments) (play : Play) (n : Nat) :
    SteadyNotes (play.timerNotes moments n) := by
  induction n with
  | zero => exact .nil
  | succ n ih =>
    refine List.pairwise_append.2 ⟨ih, ?_, fun note hnote later hlater => ?_⟩
    · cases (play.after moments n).timerNote? (moments n) <;> simp
    · rw [outside_of_timerNote? (Option.mem_toList.1 hlater)]
      exact before_of_mem_timerNotes hm play hnote

theorem timerUse_start (script : Script) (goal : Goal) (progress : Progress) :
    (start script goal progress).timerUse = {} := by
  cases goal <;> rfl

end Play

/-- Whatever is done with timers, under any clock that never goes back and any request to stop, a
wait answers that it was cut short exactly if it saw the request, and otherwise not before its
time has passed since what it counts from. Plays use their timers so, and go on with the answer. -/
theorem waits_keep_time :
    (∀ notes, (TimerUse.after? {} notes).isSome → SteadyNotes notes → TimersKept notes) ∧
    ∀ script goal progress (moments : Nat → Moment), Steady moments → ∀ n,
      let play := Play.start script goal progress
      TimersKept (play.timerNotes moments n) ∧
      TimerUse.after? {} (play.timerNotes moments n) = some (play.after moments n).timerUse ∧
      ∀ pass step deadline next, (play.after moments n).phase = .waiting pass step deadline next →
        ∃ answer?, (play.after moments n).timerNote? (moments n) =
            some ⟨(moments n).toOutside, .checked answer?⟩ ∧
          (play.after moments (n + 1)).phase = match answer? with
            | some stopped => .acting pass step (next stopped)
            | none => .waiting pass step deadline next := by
  constructor
  · intro notes h hs
    obtain ⟨use, huse⟩ := Option.isSome_iff_exists.1 h
    exact TimerUse.timersKept huse hs
  · intro script goal progress moments hm n play
    have huse := play.after?_timerNotes (Play.timerUse_start script goal progress) moments n
    exact ⟨TimerUse.timersKept huse (Play.steady_timerNotes hm play n), huse,
      fun pass step deadline next hphase => Play.told_of_waiting hphase (moments n)⟩

/-- A wait that starts the delay timer, one that counts from there though a label is restarted in
between, and one that is cut short though it is due. -/
def threeWaits (label : Label) : List TimerNote :=
  [⟨⟨Time.ofMillis 0, false⟩, .called (.wait (.delay 2 false))⟩,
    ⟨⟨Time.ofMillis 1, false⟩, .checked none⟩,
    ⟨⟨Time.ofMillis 3, false⟩, .checked (some false)⟩,
    ⟨⟨Time.ofMillis 3, false⟩, .called (.restart label)⟩,
    ⟨⟨Time.ofMillis 4, false⟩, .called (.wait (.delay 5 false))⟩,
    ⟨⟨Time.ofMillis 5, false⟩, .checked (some false)⟩,
    ⟨⟨Time.ofMillis 5, true⟩, .called (.wait (.timer label 1))⟩,
    ⟨⟨Time.ofMillis 6, true⟩, .checked (some true)⟩]

def waitsForTheRest (label : Label) : Script where
  steps := #[⟨0, 0, .extension do
    Routine.perform .restartDelay
    let _ ← Routine.await (.timer label 5)
    let _ ← Routine.await (.delay 20 false)⟩]
  plan := #[]

theorem waits_keep_time_three :
    let notes := threeWaits 4
    (TimerUse.after? {} notes).isSome ∧ SteadyNotes notes ∧ TimersKept notes ∧
      let play := Play.start (waitsForTheRest 0) .once {}
      Steady (Moment.ticks 100) ∧ TimersKept (play.timerNotes (Moment.ticks 100) 40) ∧
        ((play.timerNotes (Moment.ticks 100) 40).filter
          (·.deed = .checked (some false))).map (·.now) = [Time.ofMillis 7, Time.ofMillis 21] := by
  intro notes
  have hused : (TimerUse.after? {} notes).isSome := by decide +kernel
  have hsteady : SteadyNotes notes := by
    simp [notes, SteadyNotes, threeWaits, Outside.Before, Time.ofMillis]
  obtain ⟨hwaits, hplays⟩ := waits_keep_time
  refine ⟨hused, hsteady, hwaits _ hused hsteady, steady_ticks 100, ?_, by decide +kernel⟩
  exact (hplays (waitsForTheRest 0) .once {} _ (steady_ticks 100) 40).1

end PadScript
