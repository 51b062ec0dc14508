import PadScript.Proofs.Script.Standard

/-!
# What reading a command changes

A reader of a standard registry works on the draft that all lines share. When it fails the
draft is the one it was given, whatever is wrong with the line. When it succeeds it has
claimed the timer of the line's `-s`, which was free, and a hit has been added to the plan;
nothing else has changed (`read_changes`). A reading looks at the draft and checks its line
first and changes the draft last, and what is composed so leaves no half-made change.
-/

namespace PadScript

-- ---------------------------------------------------------------------------
-- Readings that leave nothing behind when they fail
-- ---------------------------------------------------------------------------

namespace Reading

def Looks (x : Reading α) : Prop := ∀ draft, (x.run draft).2 = draft

def Sure (x : Reading α) : Prop := ∀ draft, ∃ a after, x.run draft = (.ok a, after)

/-- A failure leaves the draft as it was. -/
def Atomic (x : Reading α) : Prop :=
  ∀ draft error after, x.run draft = (.error error, after) → after = draft

variable {x y : Reading α} {f : α → Reading β}

theorem looks_pure (a : α) : Looks (pure a) := fun _ => rfl

theorem looks_throw (error : ReadError) : Looks (throw error : Reading α) := fun _ => rfl

theorem looks_lift (e : Except ReadError α) : Looks (liftM e) := fun _ => rfl

theorem looks_get : Looks (get : Reading Draft) := fun _ => rfl

theorem sure_pure (a : α) : Sure (pure a) := fun draft => ⟨a, draft, rfl⟩

theorem sure_modify (change : Draft → Draft) : Sure (modify change) :=
  fun draft => ⟨(), change draft, rfl⟩

theorem Sure.bind (hx : Sure x) (hf : ∀ a, Sure (f a)) : Sure (x >>= f) := by
  intro draft
  obtain ⟨a, middle, hrun⟩ := hx draft
  obtain ⟨b, after, hrest⟩ := hf a middle
  exact ⟨b, after, by rw [run_bind, hrun]; exact hrest⟩

theorem Looks.atomic (h : Looks x) : Atomic x := by
  intro draft error after hrun
  rw [← h draft, hrun]

theorem Sure.atomic (h : Sure x) : Atomic x := by
  intro draft error after hrun
  obtain ⟨a, middle, hok⟩ := h draft
  cases hok.symm.trans hrun

/-- Checks may come before what is atomic. -/
theorem Looks.bind (hx : Looks x) (hf : ∀ a, Atomic (f a)) : Atomic (x >>= f) := by
  intro draft error after hrun
  rcases bind_error.1 hrun with hfail | ⟨a, middle, hok, hrest⟩
  · exact hx.atomic draft error after hfail
  · obtain rfl : middle = draft := by rw [← hx draft, hok]
    exact hf a middle error after hrest

/-- After a change, nothing may fail. -/
theorem Atomic.bind (hx : Atomic x) (hf : ∀ a, Sure (f a)) : Atomic (x >>= f) := by
  intro draft error after hrun
  rcases bind_error.1 hrun with hfail | ⟨a, middle, -, hrest⟩
  · exact hx draft error after hfail
  · obtain ⟨b, last, hok⟩ := hf a middle
    cases hok.symm.trans hrest

theorem atomic_ite {c : Prop} [Decidable c] (hx : Atomic x) (hy : Atomic y) :
    Atomic (if c then x else y) := by
  split
  · exact hx
  · exact hy

theorem atomic_throw_bind (error : ReadError) : Atomic ((throw error : Reading α) >>= f) := by
  intro draft error' after hrun
  cases hrun
  rfl

theorem atomic_claim (label : Label) : Atomic (claim label) :=
  looks_get.bind fun _ => atomic_ite (atomic_throw_bind _) (sure_modify _).atomic

theorem atomic_claimStart (value : Option String) : Atomic (claimStart value) := by
  cases value with
  | none => exact (looks_pure _).atomic
  | some text =>
    exact (looks_lift _).bind fun label => (atomic_claim label).bind fun _ => sure_pure _

end Reading

open Reading

-- ---------------------------------------------------------------------------
-- Readers
-- ---------------------------------------------------------------------------

theorem press_atomic (args : List String) : Atomic (Press.read args) := by
  unfold Press.read
  cases args with
  | nil => exact (looks_throw _).atomic
  | cons groupsText optionArgs =>
    refine atomic_ite (atomic_throw_bind _) ?_
    refine (looks_lift _).bind fun groups => (looks_lift _).bind fun options => ?_
    refine (looks_lift _).bind fun durationMs => (looks_lift _).bind fun intervalMs => ?_
    exact (atomic_claimStart _).bind fun _ => sure_pure _

theorem wait_atomic (args : List String) : Atomic (Wait.read args) := by
  unfold Wait.read
  split
  · exact (looks_lift _).bind fun _ => (looks_pure _).atomic
  · exact (looks_throw _).atomic

theorem start_atomic (args : List String) : Atomic (Start.read args) := by
  unfold Start.read
  split
  · exact (looks_pure _).atomic
  · split
    · exact (atomic_claimStart _).bind fun _ => sure_pure _
    · exact (looks_throw _).atomic
  · exact (looks_throw _).atomic

theorem hit_atomic (args : List String) : Atomic (Hit.read args) := by
  unfold Hit.read
  split
  · refine atomic_ite (atomic_throw_bind _) ?_
    refine (looks_lift _).bind fun button => (looks_lift _).bind fun frame => ?_
    refine (looks_lift _).bind fun options => (looks_lift _).bind fun durationMs => ?_
    refine (looks_lift _).bind fun label => looks_get.bind fun draft => ?_
    refine atomic_ite ?_ (atomic_throw_bind _)
    refine (looks_lift _).bind fun corrected => (atomic_claimStart _).bind fun _ => ?_
    exact (sure_modify _).bind fun _ => sure_pure _
  · exact (looks_throw _).atomic

theorem reset_atomic (args : List String) : Atomic (SoftReset.read args) := by
  unfold SoftReset.read
  split
  · exact (looks_pure _).atomic
  · exact (looks_throw _).atomic

def standardReaders : List (String × Reader) :=
  (SoftReset.keyword, SoftReset.read) :: Registry.builtin.entries

variable {keyword : String} {reader : Reader}

theorem mem_standardReaders : (keyword, reader) ∈ standardReaders ↔
    keyword = "Reset" ∧ reader = SoftReset.read ∨ keyword = "Hit" ∧ reader = Hit.read ∨
      keyword = "Press" ∧ reader = Press.read ∨ keyword = "Start" ∧ reader = Start.read ∨
      keyword = "Wait" ∧ reader = Wait.read := by
  simp [standardReaders, Registry.builtin, SoftReset.keyword]

theorem atomic_of_standard (h : (keyword, reader) ∈ standardReaders) (args : List String) :
    Atomic (reader args) := by
  rcases mem_standardReaders.1 h with ⟨-, rfl⟩ | ⟨-, rfl⟩ | ⟨-, rfl⟩ | ⟨-, rfl⟩ | ⟨-, rfl⟩
  · exact reset_atomic args
  · exact hit_atomic args
  · exact press_atomic args
  · exact start_atomic args
  · exact wait_atomic args

theorem reads_of_standard (h : (keyword, reader) ∈ standardReaders) :
    reader.Reads fun args => SpellsOrResets (keyword :: args) := by
  refine (registerReset_understands registerReset_builtin).reads ?_
  rcases mem_standardReaders.1 h with ⟨rfl, rfl⟩ | ⟨rfl, rfl⟩ | ⟨rfl, rfl⟩ | ⟨rfl, rfl⟩ | ⟨rfl, rfl⟩
  all_goals rfl

-- ---------------------------------------------------------------------------
-- What success changes
-- ---------------------------------------------------------------------------

/-- A timer that was free has been claimed and a hit has been planned, where there is one to
claim or to plan. Nothing else has changed. -/
structure Draft.Gains (draft after : Draft) (start : Option Label) (planned : Option PlannedHit) :
    Prop where
  line : after.line = draft.line
  store : after.store = draft.store
  free : ∀ label, start = some label → draft.isStarted label = false
  started : ∀ label, after.isStarted label = true ↔
    draft.isStarted label = true ∨ start = some label
  plan : after.plan = draft.plan ++ planned.toArray

/-- The timer that a line claims, which its `-s` names, and the hit that it plans. -/
inductive LaysDown : List String → Option Label → Option PlannedHit → Prop
  | press {groupsText : String} {options : List String} {start : Option Label}
      (hstart : SpellsStart (optionValue? 's' options) start) :
      LaysDown ("Press" :: groupsText :: options) start none
  | wait {text : String} : LaysDown ["Wait", text] none none
  | start {options : List String} {start : Option Label}
      (hstart : SpellsStart (optionValue? 's' options) start) :
      LaysDown ("Start" :: options) start none
  | hit {symbol frameText : String} {options : List String} {label : Label}
      {frame corrected : UInt32} {start : Option Label}
      (hlabel : SpellsSource (optionValue? 'l' options) label)
      (hframe : SpellsNatural frameText frame)
      (hcorrected : SpellsCorrection frame (optionValue? 'c' options) corrected)
      (hstart : SpellsStart (optionValue? 's' options) start) :
      LaysDown ("Hit" :: symbol :: frameText :: options) start (some ⟨label, corrected⟩)
  | reset : LaysDown ["Reset"] none none

theorem SpellsOrResets.laysDown {line : List String} {command : Command}
    (h : SpellsOrResets line command) : LaysDown line command.start? command.planned? := by
  rcases h with h | ⟨rfl, rfl⟩
  · cases command with
    | press press =>
      obtain ⟨_, _, rfl, h⟩ := h
      exact .press h.start
    | wait wait =>
      obtain ⟨_, rfl, -⟩ := h
      exact .wait
    | start start =>
      obtain ⟨_, rfl, h⟩ := h
      exact .start h.start
    | hit hit =>
      obtain ⟨_, _, _, rfl, h⟩ := h
      obtain ⟨frame, hframe, hcorrected⟩ := h.frame
      exact .hit h.label hframe hcorrected h.start
    | extension routine => exact absurd h id
  · exact .reset

theorem Draft.Permits.gains {draft : Draft} {command : Command} (h : draft.Permits command) :
    draft.Gains (draft.lay command) command.start? command.planned? where
  line := by
    unfold lay claim
    cases command.planned? <;> cases command.start? <;> rfl
  store := by
    unfold lay claim
    cases command.planned? <;> cases command.start? <;> rfl
  free := h.fresh
  started label := by rw [isStarted_lay, isStarted_claim]
  plan := plan_lay draft command

/-- Reading a line leaves the draft as it was, or claims the timer that the line starts and plans
the hit that it makes, and no more. -/
theorem read_changes (h : (keyword, reader) ∈ standardReaders) (args : List String)
    (draft : Draft) :
    match (reader args).run draft with
    | (.error _, after) => after = draft
    | (.ok command, after) => LaysDown (keyword :: args) command.start? command.planned? ∧
        draft.Gains after command.start? command.planned? := by
  rcases hrun : (reader args).run draft with ⟨error | command, after⟩
  · exact atomic_of_standard h args draft error after hrun
  · obtain ⟨hspells, hpermits, rfl⟩ := (reads_of_standard h args draft command after).1 hrun
    exact ⟨hspells.laysDown, hpermits.gains⟩

/-- A hit that goes below frame 0 and claims a timer, and one that claims a timer that is taken. -/
theorem read_changes_hit :
    let draft : Draft := Draft.setStarted {} 0
    ("Hit", Hit.read) ∈ standardReaders ∧
    (∃ command after, (Hit.read ["A", "9", "-c=-20", "-s=3"]).run draft = (.ok command, after) ∧
      LaysDown ["Hit", "A", "9", "-c=-20", "-s=3"] (some 3) (some ⟨0, 0⟩) ∧
      draft.Gains after (some 3) (some ⟨0, 0⟩)) ∧
    ∃ after, (Hit.read ["A", "9", "-c=-20", "-s=0"]).run draft =
      (.error (.alreadyStarted 0), after) ∧ after = draft := by
  intro draft
  have hmem : ("Hit", Hit.read) ∈ standardReaders := mem_standardReaders.2 (by simp)
  have hclaims := read_changes hmem ["A", "9", "-c=-20", "-s=3"] draft
  have htaken := read_changes hmem ["A", "9", "-c=-20", "-s=0"] draft
  exact ⟨hmem, ⟨_, _, rfl, hclaims.1, hclaims.2⟩, _, rfl, htaken⟩

end PadScript
