import PadScript.Play

/-!
# Notes of a play

Somebody who watches a play writes down what it does at each moment: which step of
which pass it was at, what the clock showed, and whether the stop flag was up. The
flag is noted whether or not the play looked at it. `written_notes` ties the notes
to what the output sees, and `follows_notes` says that under a clock and a flag
that never go back no later moment falls behind a note.
-/

namespace PadScript

inductive Deed
  | passBegun
  | stepBegun
  /-- Before a pass or a step, the play saw that it is to stop. -/
  | heldBack
  | performed (action : Action)
  | refused (bytes : List UInt8)
  | asked
  | waitBegun (pause : Pause)
  | waitOver

structure Note extends Outside where
  pass : Nat
  step : Nat
  deed : Deed

namespace Note

def wrote? (note : Note) : Option (List UInt8) :=
  match note.deed with
  | .performed (.write bytes) => some bytes
  | _ => none

def restarts? (note : Note) : Option Label :=
  match note.deed with
  | .performed (.restartTimer label) | .performed (.startTimer label) => some label
  | _ => none

def place (note : Note) : Nat × Nat := (note.pass, note.step)

end Note

def written (notes : List Note) : List (List UInt8) := notes.filterMap Note.wrote?

def StopSeen (notes : List Note) : Prop := ∃ note ∈ notes, note.stopRequested = true

/-- Neither the clock nor the stop flag has gone back since any of the notes. -/
def Follows (notes : List Note) (outside : Outside) : Prop :=
  ∀ note ∈ notes, note.now ≤ outside.now ∧
    (note.stopRequested = true → outside.stopRequested = true)

@[simp] theorem written_nil : written [] = [] := rfl

@[simp] theorem written_append (notes more : List Note) :
    written (notes ++ more) = written notes ++ written more := List.filterMap_append

@[simp] theorem written_cons (note : Note) (notes : List Note) :
    written (note :: notes) = note.wrote?.toList ++ written notes := by
  cases h : note.wrote? <;> simp [written, h]

@[simp] theorem not_stopSeen_nil : ¬ StopSeen [] := by simp [StopSeen]

@[simp] theorem stopSeen_append {notes more : List Note} :
    StopSeen (notes ++ more) ↔ StopSeen notes ∨ StopSeen more := by
  simp [StopSeen, or_and_right, exists_or]

@[simp] theorem stopSeen_cons {note : Note} {notes : List Note} :
    StopSeen (note :: notes) ↔ note.stopRequested = true ∨ StopSeen notes := by
  simp [StopSeen]

theorem follows_nil (outside : Outside) : Follows [] outside := by simp [Follows]

theorem follows_append {notes more : List Note} {outside : Outside} :
    Follows (notes ++ more) outside ↔ Follows notes outside ∧ Follows more outside :=
  List.forall_mem_append

theorem Follows.not_stopSeen {notes : List Note} {outside : Outside} (h : Follows notes outside)
    (hs : outside.stopRequested = false) : ¬ StopSeen notes := by
  rintro ⟨note, hn, hstop⟩
  simp [(h note hn).2 hstop] at hs

theorem Follows.now_le {notes : List Note} {outside : Outside} (h : Follows notes outside)
    {note : Note} (hn : note ∈ notes) : note.now ≤ outside.now := (h note hn).1

theorem Follows.trans {notes : List Note} {outside later : Outside} (h : Follows notes outside)
    (hnow : outside.now ≤ later.now)
    (hstop : outside.stopRequested = true → later.stopRequested = true) : Follows notes later :=
  fun note hn => ⟨Nat.le_trans (h note hn).1 hnow, fun hs => hstop ((h note hn).2 hs)⟩

/-- Moments under a clock that never goes back and a stop flag that nobody takes down. -/
structure Steady (moments : Nat → Moment) : Prop where
  clock : ∀ n, (moments n).now ≤ (moments (n + 1)).now
  stop : ∀ n, (moments n).stopRequested = true → (moments (n + 1)).stopRequested = true

def Moment.ticks (stopAt n : Nat) : Moment :=
  { now := Time.ofMillis n, stopRequested := stopAt ≤ n }

theorem steady_ticks (stopAt : Nat) : Steady (Moment.ticks stopAt) := by
  constructor
  · intro n
    exact Nat.mul_le_mul_right _ (Nat.le_succ n)
  · intro n
    simp only [Moment.ticks, decide_eq_true_eq]
    omega

namespace Play

/-- What the play does at a moment; `none` when nobody could tell. -/
def deed? (play : Play) (moment : Moment) : Option Deed :=
  match play.phase with
  | .atPass pass =>
    match play.goal with
    | .once => none
    | .repeated count =>
      if 0 ≤ count ∧ count.toInt ≤ pass then none
      else if moment.stopRequested then some .heldBack
      else some .passBegun
  | .atStep _ step =>
    if step < play.script.steps.size then
      if moment.stopRequested then some .heldBack else some .stepBegun
    else none
  | .acting _ _ routine =>
    match routine with
    | .act (.write bytes) _ =>
      if moment.refusal.isSome then some (.refused bytes) else some (.performed (.write bytes))
    | .act action _ => some (.performed action)
    | .check _ => some .asked
    | .pause pause _ => some (.waitBegun pause)
    | .done _ | .fail _ | .consult _ => none
  | .waiting _ _ deadline _ =>
    if (pollWait deadline moment.toOutside).isSome then some .waitOver else none
  | .ending | .finished _ => none

def place (play : Play) : Nat × Nat :=
  match play.phase with
  | .atPass pass => (pass, 0)
  | .atStep pass step | .acting pass step _ | .waiting pass step _ _ => (pass, step)
  | .ending | .finished _ => (0, 0)

def note? (play : Play) (moment : Moment) : Option Note :=
  (play.deed? moment).map fun deed => ⟨moment.toOutside, play.place.1, play.place.2, deed⟩

def notes (play : Play) (moments : Nat → Moment) : Nat → List Note
  | 0 => []
  | n + 1 => play.notes moments n ++ ((play.after moments n).note? (moments n)).toList

end Play

def Event.wrote? : Event → Option (List UInt8)
  | .wrote bytes => some bytes
  | _ => none

namespace Play

theorem seen_of_advance (play : Play) (moment : Moment) :
    (∃ bytes, play.pendingWrite? = some bytes ∧
      (moment.refusal = none ∧ (play.advance moment).2 = some (.wrote bytes) ∨
        ∃ fault, moment.refusal = some fault ∧
          (play.advance moment).2 = some (.refused bytes fault))) ∨
    play.pendingWrite? = none ∧ ((play.advance moment).2 = none ∨
      (∃ entry, (play.advance moment).2 = some (.logged entry)) ∨
      ∃ message, (play.advance moment).2 = some (.signalled message)) := by
  obtain ⟨script, goal, context, phase⟩ := play
  cases phase with
  | acting pass step routine =>
    cases routine with
    | act action next =>
      cases action with
      | write bytes =>
        refine .inl ⟨bytes, rfl, ?_⟩
        cases hrefusal : moment.refusal with
        | none => exact .inl ⟨rfl, by simp [advance, act, hrefusal]⟩
        | some fault => exact .inr ⟨fault, rfl, by simp [advance, act, hrefusal]⟩
      | log entry => exact .inr ⟨rfl, .inr (.inl ⟨entry, rfl⟩)⟩
      | signal message => exact .inr ⟨rfl, .inr (.inr ⟨message, rfl⟩)⟩
      | _ => exact .inr ⟨rfl, .inl rfl⟩
    | _ => exact .inr ⟨rfl, .inl rfl⟩
  | waiting pass step deadline next =>
    refine .inr ⟨rfl, .inl ?_⟩
    simp only [advance]
    split <;> rfl
  | _ => exact .inr ⟨rfl, .inl rfl⟩

theorem advance_ne_closed (play : Play) (moment : Moment) (failure : Option Report) :
    (play.advance moment).2 ≠ some (.closed failure) := by
  rcases play.seen_of_advance moment with ⟨_, -, ⟨-, h⟩ | ⟨_, -, h⟩⟩ | ⟨-, h | ⟨_, h⟩ | ⟨_, h⟩⟩
  all_goals simp [h]

theorem written_note? (play : Play) (moment : Moment) :
    written (play.note? moment).toList =
      (play.advance moment).2.toList.filterMap Event.wrote? := by
  rcases play with ⟨script, goal, context, phase⟩
  cases phase with
  | acting pass step routine =>
    cases routine with
    | act action next =>
      cases action with
      | write bytes => cases hm : moment.refusal <;>
          simp [advance, act, note?, deed?, hm, Note.wrote?, Event.wrote?]
      | _ => simp [advance, act, note?, deed?, Note.wrote?, Event.wrote?]
    | _ => simp [advance, note?, deed?, Note.wrote?]
  | waiting pass step deadline next =>
    cases hp : pollWait deadline moment.toOutside <;>
      simp [advance, note?, deed?, hp, Note.wrote?]
  | _ =>
    simp only [advance, note?, deed?]
    repeat' split
    all_goals simp [Note.wrote?]

theorem written_notes (play : Play) (moments : Nat → Moment) (n : Nat) :
    written (play.notes moments n) = (play.events moments n).filterMap Event.wrote? := by
  induction n with
  | zero => rfl
  | succ n ih => rw [notes, events, written_append, List.filterMap_append, ih, written_note?]

theorem refused_note? {play : Play} {moment : Moment} {note : Note} {bytes : List UInt8}
    (hn : play.note? moment = some note) (hd : note.deed = .refused bytes) :
    ∃ fault, (play.advance moment).2 = some (.refused bytes fault) := by
  rcases play with ⟨script, goal, context, phase⟩
  obtain ⟨deed, hdeed, rfl⟩ := Option.map_eq_some_iff.1 hn
  obtain rfl : deed = .refused bytes := hd
  cases phase with
  | acting pass step routine =>
    cases routine with
    | act action next =>
      cases action with
      | write bytes' =>
        cases hm : moment.refusal with
        | none => simp [deed?, hm] at hdeed
        | some fault =>
          obtain rfl : bytes' = bytes := by simpa [deed?, hm] using hdeed
          exact ⟨fault, by simp [advance, act, hm]⟩
      | _ => cases hdeed
    | _ => cases hdeed
  | _ =>
    simp only [deed?] at hdeed
    repeat' split at hdeed
    all_goals cases hdeed

theorem refused_notes {play : Play} {moments : Nat → Moment} {n : Nat} {note : Note}
    {bytes : List UInt8} (hn : note ∈ play.notes moments n) (hd : note.deed = .refused bytes) :
    ∃ fault, .refused bytes fault ∈ play.events moments n := by
  induction n with
  | zero => cases hn
  | succ n ih =>
    rcases List.mem_append.1 hn with hn | hn
    · obtain ⟨fault, hf⟩ := ih hn
      exact ⟨fault, List.mem_append_left _ hf⟩
    · obtain ⟨fault, hf⟩ := refused_note? (Option.mem_toList.1 hn) hd
      exact ⟨fault, List.mem_append_right _ (by simp [hf])⟩

theorem follows_note? (play : Play) (moment : Moment) :
    Follows (play.note? moment).toList moment.toOutside := by
  cases h : play.deed? moment <;> simp [note?, h, Follows]

theorem follows_notes {moments : Nat → Moment} (hs : Steady moments) (play : Play) (n : Nat) :
    Follows (play.notes moments n) (moments n).toOutside := by
  induction n with
  | zero => exact follows_nil _
  | succ n ih =>
    have h : Follows (play.notes moments (n + 1)) (moments n).toOutside :=
      follows_append.2 ⟨ih, follows_note? _ _⟩
    exact h.trans (hs.clock n) (hs.stop n)

end Play

end PadScript
