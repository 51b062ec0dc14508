import PadScript.Label

/-!
# Timers of a play

Ten labelled timers and one for plain delays. A timer is known by the moment of
its last restart. A wait has a deadline fixed when it begins, and is then polled:
a request to stop is seen before the clock is read. No label moves another, and
labelled timers and the delay timer do not move each other.
-/

namespace PadScript

/-- A reading of the clock, in nanoseconds. -/
abbrev Time := Nat

namespace Time

def ofMillis (ms : Nat) : Time := ms * 1000000

def toMillis (time : Time) : Nat := time / 1000000

end Time

structure Outside where
  now : Time
  stopRequested : Bool
  deriving DecidableEq, Repr

structure Timers where
  labelled : Labelled (Option Time) := .constant none
  delay : Option Time := none
  deriving DecidableEq

namespace Timers

def restartedAt (timers : Timers) (label : Label) : Option Time := timers.labelled.get label

def restart (timers : Timers) (label : Label) (now : Time) : Timers :=
  { timers with labelled := timers.labelled.set label (some now) }

def restartDelay (timers : Timers) (now : Time) : Timers := { timers with delay := some now }

def isStarted (timers : Timers) (label : Label) : Bool := (timers.restartedAt label).isSome

/-- Time since the last restart; zero for a timer never started. -/
def elapsed (timers : Timers) (label : Label) (now : Time) : Time :=
  match timers.restartedAt label with
  | some since => now - since
  | none => 0

/-- Begins a wait on the delay timer. A fresh wait counts from now; otherwise it
counts from the last restart, or from now if there was none. The deadline comes
with the timers, since counting from now restarts the delay timer. -/
def beginDelay (timers : Timers) (ms : Nat) (fresh : Bool) (now : Time) : Timers × Time :=
  match timers.delay with
  | some since => if fresh then (timers.restartDelay now, now + Time.ofMillis ms)
      else (timers, since + Time.ofMillis ms)
  | none => (timers.restartDelay now, now + Time.ofMillis ms)

/-- The deadline of a wait until a label has run for `ms`. A timer never started
counts from now. -/
def deadlineOn (timers : Timers) (label : Label) (ms : Nat) (now : Time) : Time :=
  (timers.restartedAt label).getD now + Time.ofMillis ms

@[simp] theorem restartedAt_restart_self (timers : Timers) (label : Label) (now : Time) :
    (timers.restart label now).restartedAt label = some now := by
  simp [restartedAt, restart]

theorem restartedAt_restart_of_ne (timers : Timers) {label other : Label} (now : Time)
    (h : other ≠ label) :
    (timers.restart label now).restartedAt other = timers.restartedAt other := by
  simp [restartedAt, restart, Labelled.get_set_of_ne _ _ h]

@[simp] theorem delay_restart (timers : Timers) (label : Label) (now : Time) :
    (timers.restart label now).delay = timers.delay := rfl

@[simp] theorem restartedAt_restartDelay (timers : Timers) (label : Label) (now : Time) :
    (timers.restartDelay now).restartedAt label = timers.restartedAt label := rfl

@[simp] theorem restartedAt_beginDelay (timers : Timers) (ms : Nat) (fresh : Bool) (now : Time)
    (label : Label) :
    (timers.beginDelay ms fresh now).1.restartedAt label = timers.restartedAt label := by
  unfold beginDelay
  split
  · split <;> rfl
  · rfl

theorem delay_beginDelay (timers : Timers) (ms : Nat) (fresh : Bool) (now : Time) :
    (timers.beginDelay ms fresh now).1.delay =
      some (if fresh then now else timers.delay.getD now) := by
  unfold beginDelay
  cases hdelay : timers.delay <;> cases fresh <;> simp [restartDelay, hdelay]

theorem deadline_beginDelay (timers : Timers) (ms : Nat) (fresh : Bool) (now : Time) :
    (timers.beginDelay ms fresh now).2 =
      (if fresh then now else timers.delay.getD now) + Time.ofMillis ms := by
  unfold beginDelay
  cases timers.delay <;> cases fresh <;> rfl

end Timers

def pollWait (deadline : Time) (outside : Outside) : Option Bool :=
  if outside.stopRequested then some true
  else if deadline ≤ outside.now then some false
  else none

theorem pollWait_eq_some_true_iff {deadline : Time} {outside : Outside} :
    pollWait deadline outside = some true ↔ outside.stopRequested := by
  unfold pollWait
  split
  · simp_all
  · split <;> simp_all

theorem pollWait_eq_some_false_iff {deadline : Time} {outside : Outside} :
    pollWait deadline outside = some false ↔
      outside.stopRequested = false ∧ deadline ≤ outside.now := by
  unfold pollWait
  split
  · simp_all
  · split <;> simp_all

theorem pollWait_eq_none_iff {deadline : Time} {outside : Outside} :
    pollWait deadline outside = none ↔
      outside.stopRequested = false ∧ outside.now < deadline := by
  unfold pollWait
  split
  · simp_all
  · split <;> simp_all

end PadScript
