import PadScript.FrameRate
import PadScript.Timers

/-!
# Progress of a play, as published

A play publishes where it is in separate words, so that an observer needs no lock:
four indices, -1 while nothing runs, and one mark for each label. A mark is the
time of the label's last restart in nanoseconds since the progress was created,
plus one; zero says that the timer has not been started.
-/

namespace PadScript

/-- A hit the script plans: on `label`, `frame` frames after its restart. -/
structure PlannedHit where
  label : Label
  frame : UInt32
  deriving DecidableEq, Repr

structure Progress where
  epoch : Time := 0
  command : Int32 := -1
  /-- The 0-based source line of the current command. -/
  line : Int32 := -1
  pass : Int32 := -1
  /-- Position in the plan of the hit that comes next. -/
  hit : Int32 := -1
  marks : Labelled UInt64 := .constant 0
  deriving DecidableEq

namespace Progress

def idleIndex : Int32 := -1

def setCommand (progress : Progress) (index line : Nat) : Progress :=
  { progress with command := Int32.ofNat index, line := Int32.ofNat line }

def setPass (progress : Progress) (pass : Int32) : Progress := { progress with pass := pass }

def activateHits (progress : Progress) : Progress :=
  if progress.hit = idleIndex then { progress with hit := 0 } else progress

def nextHit (progress : Progress) : Progress := { progress with hit := progress.hit + 1 }

def endPass (progress : Progress) : Progress :=
  { progress with command := idleIndex, line := idleIndex, hit := idleIndex }

def reset (progress : Progress) : Progress :=
  { progress.endPass with pass := idleIndex, marks := .constant 0 }

def markTimer (progress : Progress) (label : Label) (time : Time) : Progress :=
  let mark := UInt64.ofNat (time - progress.epoch) + 1
  { progress with marks := progress.marks.set label mark }

def timerStarted (progress : Progress) (label : Label) : Bool := progress.marks.get label != 0

/-- Time since the label's last published restart; zero when there is none. -/
def timerElapsed (progress : Progress) (label : Label) (now : Time) : Time :=
  let mark := progress.marks.get label
  if mark = 0 then 0 else now - (progress.epoch + (mark - 1).toNat)

def anyTimerStarted (progress : Progress) : Bool := Label.all.any progress.timerStarted

def isIdle (progress : Progress) : Bool :=
  progress.command == idleIndex && progress.line == idleIndex && progress.hit == idleIndex

def nextPlanned? (progress : Progress) (plan : Array PlannedHit) : Option PlannedHit :=
  if progress.hit < 0 then none else plan[progress.hit.toInt.toNat]?

/-- Frames left until the hit at the cursor, negative when it is late. -/
def remainingFrames? (progress : Progress) (plan : Array PlannedHit) (now : Time) : Option Int :=
  (progress.nextPlanned? plan).map fun hit =>
    let elapsed := (progress.timerElapsed hit.label now).toMillis
    (hit.frame.toNat : Int) - (FrameRate.ofMillis (UInt64.ofNat elapsed)).toInt

@[simp] theorem command_setCommand (progress : Progress) (index line : Nat) :
    (progress.setCommand index line).command = Int32.ofNat index := rfl

@[simp] theorem hit_setCommand (progress : Progress) (index line : Nat) :
    (progress.setCommand index line).hit = progress.hit := rfl

@[simp] theorem hit_nextHit (progress : Progress) : progress.nextHit.hit = progress.hit + 1 := rfl

@[simp] theorem hit_reset (progress : Progress) : progress.reset.hit = idleIndex := rfl

theorem isIdle_reset (progress : Progress) : progress.reset.isIdle := rfl

theorem timerStarted_reset (progress : Progress) (label : Label) :
    progress.reset.timerStarted label = false := by
  simp [timerStarted, reset]

@[simp] theorem marks_markTimer_self (progress : Progress) (label : Label) (time : Time) :
    (progress.markTimer label time).marks.get label =
      UInt64.ofNat (time - progress.epoch) + 1 := by
  simp [markTimer]

theorem timerStarted_markTimer_of_ne (progress : Progress) {label other : Label} (time : Time)
    (h : other ≠ label) :
    (progress.markTimer label time).timerStarted other = progress.timerStarted other := by
  simp [timerStarted, markTimer, Labelled.get_set_of_ne _ _ h]

end Progress

end PadScript
