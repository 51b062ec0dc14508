import Mathlib.Data.UInt
import Mathlib.Dynamics.PeriodicPts.Lemmas
import Mathlib.Tactic.LinearCombination
import Mathlib.Tactic.Ring
import PadScript.Proofs.Play.Clocks
import PadScript.Proofs.Play.Stopping
import PadScript.Tool

/-!
# The seeds of a play's resets

A reset draws its seed before it looks whether it is to stop, and nothing else that comes
along changes the store. So the seed in the store counts the resets that were begun
(`Play.seed_after`), and as the generator goes through every word before it comes back to
one, it tells them apart (`reset_seeds`).
-/

namespace PadScript

-- ---------------------------------------------------------------------------
-- The generator
-- ---------------------------------------------------------------------------

namespace SoftReset

/-- The seed after `k` resets. -/
def seed (k : Nat) : Nat := (fun x => (x * 0x41c64e6d + 0x6073) % 2 ^ 32)^[k] 0

theorem seed_succ (k : Nat) : seed (k + 1) = (seed k * 0x41c64e6d + 0x6073) % 2 ^ 32 :=
  Function.iterate_succ_apply' _ k 0

theorem seed_lt (k : Nat) : seed k < 2 ^ 32 := by
  cases k with
  | zero => exact Nat.two_pow_pos 32
  | succ k =>
    rw [seed_succ]
    exact Nat.mod_lt _ (Nat.two_pow_pos 32)

theorem toNat_nextSeed (x : UInt32) :
    (nextSeed x).toNat = (x.toNat * 0x41c64e6d + 0x6073) % 2 ^ 32 := by
  rw [nextSeed, UInt32.toNat_add, UInt32.toNat_mul, Nat.mod_add_mod]
  rfl

theorem toNat_iterate_nextSeed (k : Nat) : (nextSeed^[k] 0).toNat = seed k := by
  induction k with
  | zero => rfl
  | succ k ih => rw [Function.iterate_succ_apply', toNat_nextSeed, ih, seed_succ]

section Period

open Function
open scoped UInt32.CommRing

theorem two_pow_32 : (2 : UInt32) ^ 32 = 0 := by decide +kernel

theorem iterate_nextSeed_two_pow (k : Nat) : ∃ s t : UInt32, ∀ x,
    nextSeed^[2 ^ k] x = x + 2 ^ k * (1 + 2 * (s + 2 * t * x)) := by
  induction k with
  | zero =>
    refine ⟨0x3039, 0x1071939b, fun x => ?_⟩
    have hmultiplier : (0x41c64e6d : UInt32) = 1 + 4 * 0x1071939b := by decide +kernel
    have hincrement : (0x6073 : UInt32) = 1 + 2 * 0x3039 := by decide +kernel
    rw [pow_zero, iterate_one, nextSeed, hmultiplier, hincrement]
    ring
  | succ k ih =>
    obtain ⟨s, t, hk⟩ := ih
    refine ⟨s + 2 ^ k * t * (1 + 2 * s), t + 2 ^ (k + 1) * t * t, fun x => ?_⟩
    rw [pow_succ, mul_two, iterate_add_apply, hk, hk]
    ring

theorem isPeriodicPt_nextSeed (x : UInt32) : IsPeriodicPt nextSeed (2 ^ 32) x := by
  obtain ⟨s, t, hk⟩ := iterate_nextSeed_two_pow 32
  have hback : x + 2 ^ 32 * (1 + 2 * (s + 2 * t * x)) = x := by rw [two_pow_32, zero_mul, add_zero]
  exact (hk x).trans hback

theorem not_isPeriodicPt_nextSeed (x : UInt32) : ¬ IsPeriodicPt nextSeed (2 ^ 31) x := by
  obtain ⟨s, t, hk⟩ := iterate_nextSeed_two_pow 31
  have hhalf : nextSeed^[2 ^ 31] x = x + 2 ^ 31 := by
    rw [hk]
    linear_combination (s + 2 * t * x) * two_pow_32
  intro hfix
  have hzero : (2 : UInt32) ^ 31 = 0 := add_eq_left.1 (hhalf.symm.trans hfix)
  exact absurd hzero (by decide +kernel)

/-- The generator goes through every word before it comes back to one. -/
theorem minimalPeriod_nextSeed (x : UInt32) : minimalPeriod nextSeed x = 2 ^ 32 :=
  minimalPeriod_eq_prime_pow (not_isPeriodicPt_nextSeed x) (isPeriodicPt_nextSeed x)

theorem seed_ne {i j : Nat} (hi : 0 < i) (hij : i < j) (hj : j ≤ 2 ^ 32) : seed i ≠ seed j := by
  obtain ⟨i, rfl⟩ := Nat.exists_eq_add_one_of_ne_zero hi.ne'
  obtain ⟨j, rfl⟩ := Nat.exists_eq_add_one_of_ne_zero (hi.trans hij).ne'
  intro heq
  rw [← toNat_iterate_nextSeed, ← toNat_iterate_nextSeed, UInt32.toNat_inj, iterate_succ_apply,
    iterate_succ_apply, iterate_eq_iterate_iff_of_lt_minimalPeriod] at heq
  · omega
  · rw [minimalPeriod_nextSeed]
    omega
  · rw [minimalPeriod_nextSeed]
    omega

end Period

end SoftReset

-- ---------------------------------------------------------------------------
-- The seed in the store
-- ---------------------------------------------------------------------------

def Store.HoldsSeed (store : Store) (k : Nat) : Prop :=
  store.int? SoftReset.seedKey =
    if k = 0 then none else some (SoftReset.nextSeed^[k] 0).toUInt64.toInt64

namespace SoftReset

def draw (found : Store) : Store → Store := putSeed (nextSeed (seedOf found))

theorem toInt_stored (seed : UInt32) : seed.toUInt64.toInt64.toInt = seed.toNat := by
  have hlt := seed.toNat_lt
  rw [← UInt64.ofNat_toNat (x := seed.toUInt64), UInt32.toNat_toUInt64, UInt64.toInt64_ofNat']
  exact Int64.toInt_ofNat_of_lt (by omega)

end SoftReset

namespace Store.HoldsSeed

variable {store : Store} {k : Nat}

theorem seedOf_eq (h : store.HoldsSeed k) : SoftReset.seedOf store = SoftReset.nextSeed^[k] 0 := by
  rw [SoftReset.seedOf, h]
  cases k with
  | zero => rfl
  | succ k =>
    rw [if_neg k.succ_ne_zero, Option.getD_some, UInt64.toUInt64_toInt64, UInt32.toUInt32_toUInt64]

theorem next (h : store.HoldsSeed k) : (SoftReset.draw store store).HoldsSeed (k + 1) := by
  rw [HoldsSeed, SoftReset.draw, SoftReset.putSeed, int?_setInt_self, if_neg k.succ_ne_zero,
    h.seedOf_eq, Function.iterate_succ_apply']

theorem toInt_eq (h : store.HoldsSeed k) : (store.int? SoftReset.seedKey).map Int64.toInt =
    if k = 0 then none else some (SoftReset.seed k : Int) := by
  rw [h]
  cases k with
  | zero => rfl
  | succ k =>
    rw [if_neg k.succ_ne_zero, if_neg k.succ_ne_zero, Option.map_some, SoftReset.toInt_stored,
      SoftReset.toNat_iterate_nextSeed]

end Store.HoldsSeed

-- ---------------------------------------------------------------------------
-- Commands that leave the store alone
-- ---------------------------------------------------------------------------

def Action.keepsStore : Action → Bool
  | .store _ => false
  | .write _ | .restartTimer _ | .startTimer _ | .restartDelay | .nextHit | .log _ | .signal _ =>
    true

namespace Routine

def SparesStore (r : Routine Unit) : Prop := r.Only (·.keepsStore = true) fun _ => True

theorem sparesStore_startTimer? (start : Option Label) : (startTimer? start).SparesStore := by
  cases start with
  | none => trivial
  | some label => exact ⟨rfl, trivial⟩

theorem sparesStore_holdEach (holds : List (Buttons × UInt32 × UInt32)) :
    (holdEach holds).SparesStore :=
  only_holdEach (fun _ => rfl) (fun _ => trivial) holds

theorem sparesStore_hit (hit : Hit) : hit.routine.SparesStore := by
  have hhold : (hold hit.button hit.durationMs).Only (·.keepsStore = true) fun _ => True :=
    only_hold (fun _ => rfl) (fun _ => trivial) hit.button hit.durationMs
  rw [Hit.routine_eq]
  refine ⟨trivial, fun stopped => ?_⟩
  cases stopped with
  | true => trivial
  | false =>
    exact ⟨rfl, (sparesStore_startTimer? hit.start).bind fun _ => hhold.bind fun _ => trivial⟩

theorem sparesStore_start (start : Start) : start.routine.SparesStore := by
  obtain ⟨_ | label⟩ := start
  · exact ⟨rfl, trivial⟩
  · exact ⟨rfl, rfl, trivial⟩

end Routine

namespace Command

def isExtension : Command → Bool
  | extension _ => true
  | press _ | wait _ | start _ | hit _ => false

theorem sparesStore_routine {command : Command} (h : command.isExtension = false) :
    command.routine.SparesStore := by
  cases command with
  | press press =>
    exact (Routine.sparesStore_startTimer? press.start).bind fun _ =>
      Routine.sparesStore_holdEach _
  | wait wait => exact ⟨trivial, fun _ => trivial⟩
  | start start => exact Routine.sparesStore_start start
  | hit hit => exact Routine.sparesStore_hit hit
  | extension routine => cases h

theorem Standard.routine_of_isExtension {command : Command} (hs : command.Standard)
    (h : command.isExtension = true) : command.routine = SoftReset.routine := by
  cases command with
  | extension routine => exact hs
  | press | wait | start | hit => cases h

end Command

-- ---------------------------------------------------------------------------
-- Resets of a play
-- ---------------------------------------------------------------------------

namespace Script

/-- A step with `Reset` begins; a standard script has no other extension. -/
def beginsReset (script : Script) (note : Note) : Bool :=
  note.beginsStep && script.commands[note.step]?.any Command.isExtension

def resets (script : Script) (notes : List Note) : Nat := notes.countP script.beginsReset

def atReset (script : Script) (notes : List Note) : Bool :=
  notes.getLast?.any script.beginsReset

/-- How many resets have drawn a seed: those that were begun, but for one that has only
just begun. -/
def drawn (script : Script) (notes : List Note) : Nat :=
  script.resets notes - (script.atReset notes).toNat

variable {script : Script} {notes : List Note} {note : Note}

theorem resets_concat (h : script.beginsReset note = true) :
    script.resets (notes ++ [note]) = script.resets notes + 1 := by
  simp [resets, h]

theorem resets_concat_quiet (h : script.beginsReset note = false) :
    script.resets (notes ++ [note]) = script.resets notes := by
  simp [resets, h]

theorem atReset_concat : script.atReset (notes ++ [note]) = script.beginsReset note := by
  simp [atReset]

end Script

/-- What a reset does before it holds a button. -/
def Routine.Draws (store : Store) (r : Routine Unit) : Prop :=
  r = SoftReset.routine ∨ ∃ rest : Routine Unit, rest.SparesStore ∧
    r = .act (.store (SoftReset.draw store)) rest

theorem SoftReset.draws_routine (context : Context) (now : Time) :
    ∃ next, SoftReset.routine = .consult next ∧ (next context now).Draws context.store := by
  refine ⟨_, routine_eq, .inr ⟨_, ?_, rfl⟩⟩
  exact ⟨rfl, Routine.sparesStore_holdEach _⟩

namespace Play

variable {play next : Play} {moment : Moment} {notes : List Note}

theorem step_of_stepBegun (h : play.deed? moment = some .stepBegun) :
    ∃ pass step, play.phase = .atStep pass step ∧ step < play.script.steps.size ∧
      moment.stopRequested = false := by
  obtain ⟨script, goal, context, phase⟩ := play
  cases phase with
  | atStep pass step =>
    refine ⟨pass, step, rfl, ?_⟩
    simp only [deed?] at h
    split at h
    · split at h
      · cases h
      · exact ⟨‹_›, Bool.eq_false_iff.2 ‹_›⟩
    · cases h
  | _ =>
    simp only [deed?] at h
    repeat' split at h
    all_goals cases h

/-- The seed counts every reset that was begun, and what is performed leaves it alone. -/
structure SeedSettled (play : Play) (notes : List Note) : Prop where
  seed : play.context.store.HoldsSeed (play.script.resets notes)
  rest : ∀ r, play.phase.Performs r → r.SparesStore
  begun : play.script.atReset notes = false

/-- The last reset that was begun is about to draw its seed. -/
structure SeedDue (play : Play) (notes : List Note) : Prop where
  seed : ∃ k, play.context.store.HoldsSeed k ∧ play.script.resets notes = k + 1
  rest : ∃ pass step r, play.phase = .acting pass step r ∧ r.Draws play.context.store
  begun : play.script.atReset notes = true

theorem SeedSettled.congr (h : play.SeedSettled notes) (hscript : next.script = play.script)
    (hstore : next.context.store = play.context.store)
    (hrest : ∀ r, next.phase.Performs r → r.SparesStore)
    (hnote : ∀ note, play.note? moment = some note → play.script.beginsReset note = false) :
    next.SeedSettled (notes ++ (play.note? moment).toList) := by
  cases hn : play.note? moment with
  | none =>
    rw [Option.toList_none, List.append_nil]
    exact ⟨by rw [hstore, hscript]; exact h.seed, hrest, by rw [hscript]; exact h.begun⟩
  | some note =>
    have hquiet := hnote note hn
    refine ⟨?_, hrest, ?_⟩
    · rw [hstore, hscript, Option.toList_some, Script.resets_concat_quiet hquiet]
      exact h.seed
    · rw [hscript, Option.toList_some, Script.atReset_concat, hquiet]

theorem beginsReset_eq_false (hdeed : play.deed? moment ≠ some .stepBegun) {note : Note}
    (hn : play.note? moment = some note) : play.script.beginsReset note = false := by
  obtain ⟨deed, hnoted, rfl⟩ := Option.map_eq_some_iff.1 hn
  have hbegins : Note.beginsStep ⟨moment.toOutside, play.place.1, play.place.2, deed⟩ = false := by
    unfold Note.beginsStep
    split
    · rename_i hbegun
      have hbegun : deed = .stepBegun := hbegun
      rw [hbegun] at hnoted
      exact absurd hnoted hdeed
    · rfl
  rw [Script.beginsReset, hbegins, Bool.false_and]

theorem deed?_ne_stepBegun (hphase : ∀ pass step, play.phase ≠ .atStep pass step) :
    play.deed? moment ≠ some .stepBegun := by
  intro hdeed
  obtain ⟨pass, step, hat, -⟩ := step_of_stepBegun hdeed
  exact hphase pass step hat

theorem SeedSettled.endPass (h : play.SeedSettled notes) (pass : Nat)
    (hdeed : play.deed? moment ≠ some .stepBegun) :
    (play.endPass pass).SeedSettled (notes ++ (play.note? moment).toList) := by
  refine h.congr rfl rfl ?_ fun _ => beginsReset_eq_false hdeed
  unfold Play.endPass
  cases play.goal <;> exact fun _ hno => hno.elim

theorem SeedSettled.beginPass (h : play.SeedSettled notes) {pass : Nat}
    (hp : play.phase = .atPass pass) (moment : Moment) :
    (play.beginPass pass moment).SeedSettled (notes ++ (play.note? moment).toList) := by
  have hquiet (note : Note) (hn : play.note? moment = some note) :
      play.script.beginsReset note = false :=
    beginsReset_eq_false (deed?_ne_stepBegun (by simp [hp])) hn
  obtain ⟨script, goal, context, phase⟩ := play
  cases goal with
  | once => exact h.congr rfl rfl (fun _ hno => hno.elim) hquiet
  | repeated count =>
    simp only [Play.beginPass]
    split
    · exact h.congr rfl rfl (fun _ hno => hno.elim) hquiet
    · exact h.congr rfl rfl (fun _ hno => hno.elim) hquiet

theorem SeedSettled.beginStep (hs : play.script.Standard) (h : play.SeedSettled notes)
    {pass step : Nat} (hp : play.phase = .atStep pass step) (moment : Moment) :
    (play.beginStep pass step moment).SeedSettled (notes ++ (play.note? moment).toList) ∨
      (play.beginStep pass step moment).SeedDue (notes ++ (play.note? moment).toList) := by
  unfold Play.beginStep
  split
  · rename_i hnone
    refine .inl (h.endPass pass fun hdeed => ?_)
    obtain ⟨_, other, hother, hlt, -⟩ := step_of_stepBegun hdeed
    obtain ⟨rfl, rfl⟩ := Phase.atStep.inj (hp.symm.trans hother)
    exact absurd hlt (Nat.not_lt.2 (Array.getElem?_eq_none_iff.1 hnone))
  · rename_i begun hbegun
    split
    · rename_i hstop
      refine .inl (h.endPass pass fun hdeed => ?_)
      obtain ⟨_, _, -, -, hgo⟩ := step_of_stepBegun hdeed
      cases hgo.symm.trans hstop
    · rename_i hgo
      have hlt : step < play.script.steps.size := (Array.getElem?_eq_some_iff.1 hbegun).1
      have hcommand : play.script.commands[step]? = some begun.command := by
        simp [Script.commands, hbegun]
      have hnote : play.note? moment = some ⟨moment.toOutside, pass, step, .stepBegun⟩ := by
        simp [note?, deed?, place, hp, hlt, hgo]
      have hbegins : play.script.beginsReset ⟨moment.toOutside, pass, step, .stepBegun⟩ =
          begun.command.isExtension := by
        simp [Script.beginsReset, Note.beginsStep, hcommand]
      cases hextension : begun.command.isExtension with
      | false =>
        left
        refine h.congr rfl rfl ?_ fun note hn => ?_
        · rintro _ rfl
          exact Command.sparesStore_routine hextension
        · obtain rfl := Option.some.inj (hnote.symm.trans hn)
          exact hbegins.trans hextension
      | true =>
        right
        have hreset := hbegins.trans hextension
        have hstandard := hs.each _ (List.mem_of_getElem? hcommand)
        rw [hnote, Option.toList_some]
        refine ⟨⟨_, h.seed, Script.resets_concat hreset⟩, ?_, Script.atReset_concat.trans hreset⟩
        exact ⟨pass, step, _, rfl, .inl (hstandard.routine_of_isExtension hextension)⟩

theorem SeedSettled.act (h : play.SeedSettled notes) {pass step : Nat} {action : Action}
    {next : Routine Unit} (hp : play.phase = .acting pass step (.act action next))
    (moment : Moment) : (play.act pass step action next moment).1.SeedSettled
      (notes ++ (play.note? moment).toList) := by
  have hquiet (note : Note) (hn : play.note? moment = some note) :
      play.script.beginsReset note = false :=
    beginsReset_eq_false (deed?_ne_stepBegun (by simp [hp])) hn
  have hact : (Routine.act action next).SparesStore := by
    apply h.rest
    rw [hp]
    rfl
  obtain ⟨hkeeps, hspares⟩ := hact
  have hrest (r : Routine Unit) (hr : (Phase.acting pass step next).Performs r) :
      r.SparesStore := by
    obtain rfl : r = next := hr
    exact hspares
  obtain ⟨script, goal, context, phase⟩ := play
  cases action with
  | store change => cases hkeeps
  | write bytes =>
    simp only [Play.act]
    split
    · exact h.congr rfl rfl (fun _ hno => hno.elim) hquiet
    · exact h.congr rfl rfl hrest hquiet
  | _ => exact h.congr rfl rfl hrest hquiet

theorem SeedSettled.advance (hs : play.script.Standard) (h : play.SeedSettled notes)
    (moment : Moment) :
    (play.advance moment).1.SeedSettled (notes ++ (play.note? moment).toList) ∨
      (play.advance moment).1.SeedDue (notes ++ (play.note? moment).toList) := by
  have hquiet (hphase : ∀ pass step, play.phase ≠ .atStep pass step) (note : Note)
      (hn : play.note? moment = some note) : play.script.beginsReset note = false :=
    beginsReset_eq_false (deed?_ne_stepBegun hphase) hn
  obtain ⟨script, goal, context, phase⟩ := play
  cases phase with
  | atPass pass => exact .inl (h.beginPass rfl moment)
  | atStep pass step => exact h.beginStep hs rfl moment
  | acting pass step routine =>
    have hspares : routine.SparesStore := h.rest routine rfl
    have hquiet := hquiet (by simp)
    left
    cases routine with
    | act action next => exact h.act rfl moment
    | done result => exact h.congr rfl rfl (fun _ hno => hno.elim) hquiet
    | fail fault => exact h.congr rfl rfl (fun _ hno => hno.elim) hquiet
    | check next =>
      refine h.congr rfl rfl ?_ hquiet
      rintro _ rfl
      exact hspares _
    | consult next =>
      refine h.congr rfl rfl ?_ hquiet
      rintro _ rfl
      exact hspares _ _
    | pause p next =>
      cases p <;>
      · refine h.congr rfl rfl ?_ hquiet
        rintro _ ⟨answer, rfl⟩
        exact hspares.2 answer
  | waiting pass step deadline next =>
    have hspares (answer : Bool) : (next answer).SparesStore := h.rest _ ⟨answer, rfl⟩
    have hquiet := hquiet (by simp)
    left
    simp only [Play.advance]
    split
    · refine h.congr rfl rfl ?_ hquiet
      rintro _ rfl
      exact hspares _
    · exact h.congr rfl rfl h.rest hquiet
  | ending => exact .inl (h.congr rfl rfl (fun _ hno => hno.elim) (hquiet (by simp)))
  | finished result => exact .inl (h.congr rfl rfl h.rest (hquiet (by simp)))

theorem SeedDue.advance (h : play.SeedDue notes) (moment : Moment) :
    (play.advance moment).1.SeedSettled (notes ++ (play.note? moment).toList) ∨
      (play.advance moment).1.SeedDue (notes ++ (play.note? moment).toList) := by
  obtain ⟨⟨k, hseed, hk⟩, ⟨pass, step, r, hphase, hdraws⟩, hbegun⟩ := h
  rcases hdraws with rfl | ⟨rest, hspares, rfl⟩
  · obtain ⟨next, hnext, hdraws⟩ := SoftReset.draws_routine play.context moment.now
    rw [hnext] at hphase
    have hadvance : (play.advance moment).1 =
        { play with phase := .acting pass step (next play.context moment.now) } := by
      simp [Play.advance, hphase]
    have hnote : play.note? moment = none := by simp [Play.note?, Play.deed?, hphase]
    rw [hadvance, hnote, Option.toList_none, List.append_nil]
    exact .inr ⟨⟨k, hseed, hk⟩, ⟨pass, step, _, rfl, hdraws⟩, hbegun⟩
  · have hadvance : (play.advance moment).1 =
        { play with
          context := { play.context with
            store := SoftReset.draw play.context.store play.context.store }
          phase := .acting pass step rest } := by
      simp [Play.advance, Play.act, hphase]
    obtain ⟨note, hnote, hquiet⟩ : ∃ note, play.note? moment = some note ∧
        play.script.beginsReset note = false := by
      refine ⟨_, by simp only [Play.note?, Play.deed?, hphase]; rfl, rfl⟩
    rw [hadvance, hnote, Option.toList_some]
    refine .inl ⟨?_, ?_, ?_⟩
    · rw [Script.resets_concat_quiet hquiet, hk]
      exact hseed.next
    · rintro _ rfl
      exact hspares
    · rw [Script.atReset_concat, hquiet]

theorem seed_after {script : Script} (hs : script.Standard) (goal : Goal) (progress : Progress)
    (moments : Nat → Moment) (n : Nat) :
    ((start script goal progress).after moments n).SeedSettled
        ((start script goal progress).notes moments n) ∨
      ((start script goal progress).after moments n).SeedDue
        ((start script goal progress).notes moments n) := by
  induction n with
  | zero =>
    left
    refine ⟨rfl, ?_, rfl⟩
    cases goal <;> exact fun _ hno => hno.elim
  | succ n ih =>
    have hscript := ((start script goal progress).after_same moments n).1
    rcases ih with h | h
    · exact h.advance (by rw [hscript]; exact hs) (moments n)
    · exact h.advance (moments n)

theorem holdsSeed_after {script : Script} (hs : script.Standard) (goal : Goal)
    (progress : Progress) (moments : Nat → Moment) (n : Nat) :
    ((start script goal progress).after moments n).context.store.HoldsSeed
      (script.drawn ((start script goal progress).notes moments n)) := by
  have hscript : ((start script goal progress).after moments n).script = script :=
    ((start script goal progress).after_same moments n).1
  rcases seed_after hs goal progress moments n with h | h
  · have hbegun := h.begun
    have hseed := h.seed
    rw [hscript] at hbegun hseed
    rwa [Script.drawn, hbegun]
  · obtain ⟨k, hseed, hk⟩ := h.seed
    have hbegun := h.begun
    rw [hscript] at hbegun hk
    rwa [Script.drawn, hbegun, hk]

theorem drawn_of_not_performing {script : Script} (hs : script.Standard) (goal : Goal)
    (progress : Progress) (moments : Nat → Moment) (n : Nat)
    (hphase : ∀ r, ¬ ((start script goal progress).after moments n).phase.Performs r) :
    script.drawn ((start script goal progress).notes moments n) =
      script.resets ((start script goal progress).notes moments n) := by
  have hscript : ((start script goal progress).after moments n).script = script :=
    ((start script goal progress).after_same moments n).1
  rcases seed_after hs goal progress moments n with h | h
  · have hbegun := h.begun
    rw [hscript] at hbegun
    rw [Script.drawn, hbegun]
    rfl
  · obtain ⟨pass, step, r, hacting, -⟩ := h.rest
    refine absurd ?_ (hphase r)
    rw [hacting]
    rfl

end Play

/-- A play begins without a seed, whatever the plays before it did. Then, at every moment, its
store has the seed after as many resets as it has drawn one for, and these are all that were
begun unless one of them is performed right now: whatever the passes, the clock and the
requests to stop are. No two of the first `2 ^ 32` resets draw the same seed. -/
theorem reset_seeds {registry : Registry} (hr : registry.Standard) {source : List String}
    {script : Script} (hs : Script.ofLines registry source = .ok script) (goal : Goal)
    (created : Progress) (earlier : List EarlierPlay) (moments : Nat → Moment) :
    let play := Play.start script goal (created.afterPlays earlier)
    let drawn (n : Nat) : Nat := script.drawn (play.notes moments n)
    let seed? (n : Nat) : Option Int64 :=
      (play.after moments n).context.store.int? SoftReset.seedKey
    SoftReset.seedOf play.context.store = 0 ∧
    (∀ n, (seed? n).map Int64.toInt =
      if drawn n = 0 then none else some (SoftReset.seed (drawn n) : Int)) ∧
    (∀ n, (∀ r, ¬ (play.after moments n).phase.Performs r) →
      drawn n = script.resets (play.notes moments n)) ∧
    (∀ n value, seed? n = some value → 0 ≤ value.toInt ∧ value.toInt < 2 ^ 32) ∧
    ∀ m n, 0 < drawn m → drawn m < drawn n → drawn n ≤ 2 ^ 32 → seed? m ≠ seed? n := by
  intro play drawn seed?
  have hstandard := Script.standard_of_ofLines hr hs
  have hholds (n : Nat) :=
    Play.holdsSeed_after hstandard goal (created.afterPlays earlier) moments n
  have hseed (n : Nat) : (seed? n).map Int64.toInt =
      if drawn n = 0 then none else some (SoftReset.seed (drawn n) : Int) := (hholds n).toInt_eq
  have hover (n : Nat) :=
    Play.drawn_of_not_performing hstandard goal (created.afterPlays earlier) moments n
  refine ⟨rfl, hseed, hover, fun n value hvalue => ?_, fun m n hm hlt hn heq => ?_⟩
  · have hint := hseed n
    rw [hvalue, Option.map_some] at hint
    split at hint
    · cases hint
    · have hbound := SoftReset.seed_lt (drawn n)
      rw [Option.some.inj hint]
      omega
  · have hsame := (hseed m).symm.trans ((congrArg _ heq).trans (hseed n))
    rw [if_neg hm.ne', if_neg (hm.trans hlt).ne'] at hsame
    exact SoftReset.seed_ne hm hlt hn (Int.ofNat_inj.1 (Option.some.inj hsame))

def resetOver : Script := .ofEntries [(0, .extension SoftReset.routine)]

/-- A play of one reset was over before this one, which makes one reset after the other. Its
second reset is stopped while it holds the first button, and has drawn its seed. -/
theorem reset_seeds_cut_short :
    let moments (n : Nat) : Moment := { now := Time.ofMillis (5000 * n), stopRequested := 50 ≤ n }
    let earlier : List EarlierPlay := [⟨resetOver, .once, moments, 60⟩]
    let play := Play.start resetOver (.repeated (-1)) (Progress.afterPlays {} earlier)
    Script.ofLines Tool.registry ["Reset"] = .ok resetOver ∧
      (play.after moments 60).result? = some (.ok .interrupted) ∧
      (written (play.notes moments 60)).length = 12 ∧
      resetOver.drawn (play.notes moments 60) = 2 ∧
      ((play.after moments 60).context.store.int? SoftReset.seedKey).map Int64.toInt =
        some 0xe97e7b6a := by
  intro moments earlier play
  have hread : Script.ofLines Tool.registry ["Reset"] = .ok resetOver := by rfl
  obtain ⟨-, hseed, -⟩ := reset_seeds (.inr (by rfl)) hread (.repeated (-1)) {} earlier moments
  have hplay : play = Play.start resetOver (.repeated (-1)) (Progress.afterPlays {} earlier) := rfl
  have htwo : resetOver.drawn (play.notes moments 60) = 2 := by decide +kernel
  have hvalue := hseed 60
  beta_reduce at hvalue
  rw [← hplay, htwo] at hvalue
  refine ⟨hread, by decide +kernel, by decide +kernel, htwo, hvalue.trans ?_⟩
  decide +kernel

end PadScript
