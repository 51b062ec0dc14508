import Mathlib.Data.List.Induction
import PadScript.Proofs.Play.Outline
import PadScript.Proofs.Script.Standard

/-!
# When a play writes

A hit is never early and never counts from a timer that has not been started in its
own pass, a release comes when its hold is over, and nothing is written during a
wait, whatever the clock and the requests to stop are (`timely_play`). The timers of a
play go on from pass to pass; what rules out an old restart is that a script starts
each timer once and before it counts on it (`Restarted`).
-/

namespace PadScript

def Each (fits : List Note → Note → Prop) (notes : List Note) : Prop :=
  ∀ before note after, notes = before ++ note :: after → fits before note

section Each

variable {fits : List Note → Note → Prop} {notes : List Note} {note : Note}

theorem each_concat : Each fits (notes ++ [note]) ↔ Each fits notes ∧ fits notes note := by
  constructor
  · intro h
    refine ⟨fun before other after he => h before other (after ++ [note]) ?_, h notes note [] rfl⟩
    rw [he, List.append_assoc, List.cons_append]
  · rintro ⟨hnotes, hnote⟩ before other after he
    rcases List.eq_nil_or_concat after with rfl | ⟨after, last, rfl⟩
    · obtain ⟨rfl, hl⟩ := List.append_inj' he rfl
      obtain rfl := List.singleton_inj.1 hl
      exact hnote
    · rw [List.concat_eq_append, ← List.cons_append, ← List.append_assoc] at he
      exact hnotes before other after (List.append_inj' he rfl).1

end Each

-- ---------------------------------------------------------------------------
-- Waits of any play
-- ---------------------------------------------------------------------------

/-- A fresh delay that was begun is over with the next note: cut short, or long enough. -/
def Waited (begun next : Note) : Prop :=
  ∀ ms, begun.deed = .waitBegun (.delay ms true) → next.deed = .waitOver ∧
    (next.stopRequested = false → begun.now + Time.ofMillis ms.toNat ≤ next.now)

def WaitsKept : List Note → Prop :=
  Each fun before note => ∀ begun ∈ before.getLast?, Waited begun note

def NotWaiting (notes : List Note) : Prop :=
  ∀ note ∈ notes.getLast?, ∀ pause, note.deed ≠ .waitBegun pause

def WaitsOver (notes : List Note) : Prop := WaitsKept notes ∧ NotWaiting notes

section Waits

variable {notes : List Note} {note : Note} {script : Script} {goal : Goal}

theorem WaitsOver.kept (h : WaitsOver notes) : WaitsKept (notes ++ [note]) :=
  each_concat.2 ⟨h.1, fun begun hb _ hd => absurd hd (h.2 begun hb _)⟩

theorem WaitsOver.concat (h : WaitsOver notes) (hn : ∀ pause, note.deed ≠ .waitBegun pause) :
    WaitsOver (notes ++ [note]) := by
  refine ⟨h.kept, fun last hl => ?_⟩
  obtain rfl : note = last := by simpa using hl
  exact hn

def waiting (pass step : Nat) : Promise := ⟨pass, step, fun _ => WaitsKept, WaitsKept⟩

end Waits

-- ---------------------------------------------------------------------------
-- What is noted of standard commands
-- ---------------------------------------------------------------------------

def restartsIn (pass : Nat) (label : Label) (notes : List Note) : List Note :=
  notes.filter fun note => note.pass = pass ∧ note.restarts? = some label

/-- When a command begins a wait: what it has just done, and the wait. -/
inductive Command.Waits (command : Command) : Deed → Pause → Prop
  | wait {wait : Wait} (h : command = .wait wait) :
    Waits command .stepBegun (.delay wait.durationMs true)
  | due {hit : Hit} (h : command = .hit hit) :
    Waits command .stepBegun (.timer hit.label hit.dueMs)
  | hold {hold : Buttons × UInt32 × UInt32} (h : hold ∈ command.holds) :
    Waits command (.performed (.write hold.1.frame)) (.delay hold.2.1 true)
  | interval {hold : Buttons × UInt32 × UInt32} (h : hold ∈ command.holds) :
    Waits command (.performed (.write Buttons.released.frame)) (.delay hold.2.2 true)

def HoldOver (script : Script) (pass step : Nat) (notes : List Note) : Prop :=
  ∃ (earlier : List Note) (press begun waited : Note) (command : Command)
    (hold : Buttons × UInt32 × UInt32), notes = earlier ++ [press, begun, waited] ∧
    press.place = (pass, step) ∧ script.commands[step]? = some command ∧ hold ∈ command.holds ∧
    press.wrote? = some hold.1.frame ∧ begun.deed = .waitBegun (.delay hold.2.1 true) ∧
    waited.deed = .waitOver

/-- A note of a standard script that comes neither too early nor without its reason. -/
structure Timed (script : Script) (before : List Note) (note : Note) : Prop where
  restart : ∀ label, note.restarts? = some label → restartsIn note.pass label before = []
  hit : ∀ hit, script.commands[note.step]? = some (.hit hit) → note.wrote?.isSome →
    ∃ restart, restartsIn note.pass hit.label before = [restart] ∧ restart.step < note.step ∧
      restart.now + Time.ofMillis hit.dueMs.toNat ≤ note.now
  release : note.wrote? = some Buttons.released.frame →
    HoldOver script note.pass note.step before
  wait : ∀ pause, note.deed = .waitBegun pause →
    ∃ (earlier : List Note) (previous : Note) (command : Command),
      before = earlier ++ [previous] ∧ previous.place = note.place ∧
      script.commands[note.step]? = some command ∧ command.Waits previous.deed pause

def Punctual (script : Script) : List Note → Prop := Each (Timed script)

section Timed

variable {script : Script} {notes more : List Note} {note : Note} {pass step : Nat} {label : Label}

theorem mem_restartsIn : note ∈ restartsIn pass label notes ↔
    note ∈ notes ∧ note.pass = pass ∧ note.restarts? = some label := by
  simp [restartsIn]

theorem restartsIn_append :
    restartsIn pass label (notes ++ more) =
      restartsIn pass label notes ++ restartsIn pass label more :=
  List.filter_append ..

theorem restartsIn_concat (h : note.restarts? ≠ some label) :
    restartsIn pass label (notes ++ [note]) = restartsIn pass label notes := by
  rw [restartsIn_append]
  simp [restartsIn, h]

theorem restartsIn_concat_self (hp : note.pass = pass) (h : note.restarts? = some label) :
    restartsIn pass label (notes ++ [note]) = restartsIn pass label notes ++ [note] := by
  rw [restartsIn_append]
  simp [restartsIn, hp, h]

theorem Punctual.concat (h : Punctual script notes) (hn : Timed script notes note) :
    Punctual script (notes ++ [note]) := each_concat.2 ⟨h, hn⟩

theorem Punctual.once (h : Punctual script notes) : (restartsIn pass label notes).length ≤ 1 := by
  induction notes using List.reverseRecOn with
  | nil => simp [restartsIn]
  | append_singleton notes note ih =>
    obtain ⟨hnotes, hnote⟩ := each_concat.1 h
    by_cases hr : note.restarts? = some label
    · by_cases hp : note.pass = pass
      · rw [restartsIn_concat_self hp hr, ← hp, hnote.restart label hr]
        simp
      · rw [restartsIn_append]
        simpa [restartsIn, hp] using ih hnotes
    · rw [restartsIn_concat hr]
      exact ih hnotes

end Timed

-- ---------------------------------------------------------------------------
-- Timers within a pass
-- ---------------------------------------------------------------------------

/-- Before a step of a pass, the timers that earlier steps start have been restarted once
in this pass, and no others, unless a stop was requested. -/
structure Restarted (script : Script) (pass step : Nat) (context : Context) (notes : List Note) :
    Prop where
  past : ∀ note ∈ notes, ∀ label, note.restarts? = some label →
    (note.pass < pass ∨ note.pass = pass ∧ note.step < step) ∧ script.Starts note.step label
  current : ¬ StopSeen notes → ∀ earlier < step, ∀ label, script.Starts earlier label →
    ∃ restart, restartsIn pass label notes = [restart] ∧
      context.timers.restartedAt label = some restart.now

def Due (script : Script) (pass step : Nat) (notes : List Note) : Prop :=
  ∀ hit, script.commands[step]? = some (.hit hit) →
    ∃ restart, restartsIn pass hit.label notes = [restart] ∧ restart.step < step ∧
      ∃ note ∈ notes, restart.now + Time.ofMillis hit.dueMs.toNat ≤ note.now

def SameTimers (context other : Context) : Prop :=
  ∀ label, other.timers.restartedAt label = context.timers.restartedAt label

section Restarted

variable {script : Script} {pass step : Nat} {context other : Context} {notes : List Note}
  {note : Note} {label : Label}

theorem Restarted.quiet (h : Restarted script pass step context notes)
    (hr : note.restarts? = none) (hc : SameTimers context other) :
    Restarted script pass step other (notes ++ [note]) where
  past earlier he label hl := by
    rcases List.mem_append.1 he with he | he
    · exact h.past earlier he label hl
    · obtain rfl := List.mem_singleton.1 he
      simp [hr] at hl
  current hs earlier he label hl := by
    obtain ⟨restart, hone, hat⟩ :=
      h.current (fun hs' => hs (stopSeen_append.2 (.inl hs'))) earlier he label hl
    exact ⟨restart, by rw [restartsIn_concat (by simp [hr]), hone], by rw [hc, hat]⟩

theorem Restarted.next (h : Restarted script pass step context notes)
    (hn : StopSeen notes ∨ ∀ label, ¬ script.Starts step label) :
    Restarted script pass (step + 1) context notes where
  past note hm label hl := by
    obtain ⟨hplace, hstarts⟩ := h.past note hm label hl
    exact ⟨by omega, hstarts⟩
  current hs earlier he label hl := by
    rcases Nat.lt_succ_iff_lt_or_eq.1 he with he | rfl
    · exact h.current hs earlier he label hl
    · rcases hn with hn | hn
      · exact absurd hn hs
      · exact absurd hl (hn label)

theorem Restarted.nextPass (h : Restarted script pass step context notes) :
    Restarted script (pass + 1) 0 other notes where
  past note hm label hl := by
    obtain ⟨hplace, hstarts⟩ := h.past note hm label hl
    exact ⟨by omega, hstarts⟩
  current _ earlier he := absurd he (Nat.not_lt_zero earlier)

theorem Restarted.fresh (hs : script.Standard) (h : Restarted script pass step context notes)
    (hl : script.Starts step label) : restartsIn pass label notes = [] := by
  refine List.eq_nil_iff_forall_not_mem.2 fun restart hr => ?_
  obtain ⟨hm, hpass, hrestart⟩ := mem_restartsIn.1 hr
  obtain ⟨hplace, hstarts⟩ := h.past restart hm label hrestart
  have := hs.starts_unique hstarts hl
  omega

theorem Restarted.restart (hs : script.Standard) (h : Restarted script pass step context notes)
    (hl : script.Starts step label) (hp : note.pass = pass) (hstep : note.step = step)
    (hr : note.restarts? = some label) (hat : other.timers.restartedAt label = some note.now)
    (hother : ∀ l, l ≠ label → other.timers.restartedAt l = context.timers.restartedAt l) :
    Restarted script pass (step + 1) other (notes ++ [note]) where
  past earlier he l hl' := by
    rcases List.mem_append.1 he with he | he
    · obtain ⟨hplace, hstarts⟩ := h.past earlier he l hl'
      exact ⟨by omega, hstarts⟩
    · obtain rfl := List.mem_singleton.1 he
      obtain rfl : label = l := by simpa [hr] using hl'
      exact ⟨by omega, hstep ▸ hl⟩
  current hns earlier he l hl' := by
    by_cases hll : l = label
    · subst hll
      exact ⟨note, by rw [restartsIn_concat_self hp hr, h.fresh hs hl]; rfl, hat⟩
    · have hlt : earlier < step := by
        rcases Nat.lt_succ_iff_lt_or_eq.1 he with he | rfl
        · exact he
        · obtain ⟨command, hc, hstart⟩ := hl
          obtain ⟨command', hc', hstart'⟩ := hl'
          obtain rfl := Option.some.inj (hc.symm.trans hc')
          exact absurd (Option.some.inj (hstart'.symm.trans hstart)) hll
      obtain ⟨restart, hone, hrestart⟩ :=
        h.current (fun hs' => hns (stopSeen_append.2 (.inl hs'))) earlier hlt l hl'
      refine ⟨restart, ?_, by rw [hother l hll, hrestart]⟩
      rw [restartsIn_concat (by simpa [hr] using Ne.symm hll), hone]

end Restarted

-- ---------------------------------------------------------------------------
-- Commands
-- ---------------------------------------------------------------------------

structure Going (script : Script) (pass step next : Nat) (context : Context) (notes : List Note) :
    Prop where
  punctual : Punctual script notes
  restarted : Restarted script pass next context notes
  due : Due script pass step notes
  ahead : step ≤ next

section Commands

variable {script : Script} {pass step next : Nat} {context other : Context} {notes : List Note}
  {note : Note} {label : Label} {command : Command}

theorem Due.concat (h : Due script pass step notes)
    (hr : ∀ hit, script.commands[step]? = some (.hit hit) → note.restarts? ≠ some hit.label) :
    Due script pass step (notes ++ [note]) := by
  intro hit hc
  obtain ⟨restart, hone, hstep, waited, hwaited, hdue⟩ := h hit hc
  exact ⟨restart, by rw [restartsIn_concat (hr hit hc), hone], hstep, waited,
    List.mem_append_left _ hwaited, hdue⟩

theorem Going.concat (h : Going script pass step next context notes) (ht : Timed script notes note)
    (hr : note.restarts? = none) (hc : SameTimers context other) :
    Going script pass step next other (notes ++ [note]) :=
  ⟨h.punctual.concat ht, h.restarted.quiet hr hc, h.due.concat (by simp [hr]), h.ahead⟩

theorem Due.at (h : Due script pass step notes) {outside : Outside} (hf : Follows notes outside)
    {hit : Hit} (hc : script.commands[step]? = some (.hit hit)) :
    ∃ restart, restartsIn pass hit.label notes = [restart] ∧ restart.step < step ∧
      restart.now + Time.ofMillis hit.dueMs.toNat ≤ outside.now := by
  obtain ⟨restart, hone, hstep, waited, hwaited, hdue⟩ := h hit hc
  exact ⟨restart, hone, hstep, Nat.le_trans hdue (hf.now_le hwaited)⟩

def Action.Plain : Action → Prop
  | nextHit | store _ | log _ | signal _ => True
  | write _ | restartTimer _ | startTimer _ | restartDelay => False

end Commands

-- ---------------------------------------------------------------------------
-- Plays
-- ---------------------------------------------------------------------------

section Plays

variable {script : Script} {goal : Goal} {notes : List Note}

end Plays

theorem WaitsKept.delay {notes before after : List Note} {begun waited : Note} {ms : UInt32}
    (h : WaitsKept notes) (horder : notes.Pairwise fun earlier later => earlier.now ≤ later.now)
    (he : notes = before ++ begun :: waited :: after)
    (hd : begun.deed = .waitBegun (.delay ms true)) : waited.deed = .waitOver ∧
      (waited.stopRequested = false → ∀ note ∈ after,
        begun.now + Time.ofMillis ms.toNat ≤ note.now) := by
  obtain ⟨hwaited, hlong⟩ := h (before ++ [begun]) waited after (by simp [he]) begun (by simp) ms hd
  refine ⟨hwaited, fun hstop note hn => Nat.le_trans (hlong hstop) ?_⟩
  rw [he, List.append_cons, List.pairwise_append] at horder
  exact (List.pairwise_cons.1 horder.2.1).1 note hn

namespace Play

end Play

end PadScript
