import Mathlib.Data.List.Forall2
import PadScript.SoftReset

/-!
# What a line spells

`Spells` says which command the tokens of a line stand for, and asks nothing about
any other line. What a reader adds to it is `Draft.Permits`, a question about the
timers that earlier lines have claimed, and `Draft.lay`, the change to the draft.
`Reader.Reads` puts the three together; each built-in reader satisfies it, so no
later proof opens a reader.
-/

namespace PadScript

-- ---------------------------------------------------------------------------
-- Spelling
-- ---------------------------------------------------------------------------

def optionValue? (letter : Char) (options : List String) : Option String :=
  (options.filterMap splitOption?).lookup letter

/-- Each option is written with one of these letters, and no letter comes twice. -/
structure OptionsWritten (letters : List Char) (options : List String) : Prop where
  each : ∀ option ∈ options, ∃ letter ∈ letters, ∃ value, splitOption? option = some (letter, value)
  once : ((options.filterMap splitOption?).map Prod.fst).Nodup

def SpellsNatural (text : String) (n : UInt32) : Prop :=
  ∃ i, Text.int32? text = some i ∧ (n.toNat : Int) = i.toInt

def SpellsDuration (default : UInt32) : Option String → UInt32 → Prop
  | none, ms => ms = default
  | some text, ms => SpellsNatural text ms

def SpellsStart : Option String → Option Label → Prop
  | none, start => start = none
  | some text, start => ∃ label, Label.ofDigit? text = some label ∧ start = some label

def SpellsSource : Option String → Label → Prop
  | none, label => label.val = 0
  | some text, label => Label.ofDigit? text = some label

def SpellsCorrection (frame : UInt32) : Option String → UInt32 → Prop
  | none, corrected => corrected = frame
  | some text, corrected =>
    ∃ i, Text.int32? text = some i ∧ (corrected.toNat : Int) = max 0 (frame.toNat + i.toInt)

def SpellsGroups (text : String) (groups : List Buttons) : Prop :=
  List.Forall₂ (fun chord buttons => Buttons.ofChord? (String.ofList chord) = some buttons)
    (text.toList.splitOnP (· == ',')) groups

structure Press.SpelledBy (press : Press) (groupsText : String) (options : List String) :
    Prop where
  few : options.length ≤ 3
  groups : SpellsGroups groupsText press.groups
  written : OptionsWritten ['d', 'i', 's'] options
  duration : SpellsDuration 200 (optionValue? 'd' options) press.durationMs
  interval : SpellsDuration 0 (optionValue? 'i' options) press.intervalMs
  start : SpellsStart (optionValue? 's' options) press.start

structure Start.SpelledBy (start : Start) (options : List String) : Prop where
  few : options.length ≤ 1
  written : OptionsWritten ['s'] options
  start : SpellsStart (optionValue? 's' options) start.start

structure Hit.SpelledBy (hit : Hit) (symbol frameText : String) (options : List String) :
    Prop where
  few : options.length ≤ 4
  button : Buttons.ofSymbol? symbol = some hit.button
  written : OptionsWritten ['l', 'd', 's', 'c'] options
  duration : SpellsDuration 200 (optionValue? 'd' options) hit.durationMs
  label : SpellsSource (optionValue? 'l' options) hit.label
  frame : ∃ frame, SpellsNatural frameText frame ∧
    SpellsCorrection frame (optionValue? 'c' options) hit.frame
  start : SpellsStart (optionValue? 's' options) hit.start

/-- The tokens of a line stand for the command, whatever the other lines are. -/
def Spells (line : List String) : Command → Prop
  | .press press => ∃ groupsText options, line = "Press" :: groupsText :: options ∧
      press.SpelledBy groupsText options
  | .wait wait => ∃ text, line = ["Wait", text] ∧ SpellsNatural text wait.durationMs
  | .start start => ∃ options, line = "Start" :: options ∧ start.SpelledBy options
  | .hit hit => ∃ symbol frameText options, line = "Hit" :: symbol :: frameText :: options ∧
      hit.SpelledBy symbol frameText options
  | .extension _ => False

namespace Command

def start? : Command → Option Label
  | press p => p.start
  | start s => s.start
  | hit h => h.start
  | wait _ | extension _ => none

def source? : Command → Option Label
  | hit h => some h.label
  | press _ | wait _ | start _ | extension _ => none

end Command

namespace Draft

structure Permits (draft : Draft) (command : Command) : Prop where
  source : ∀ label, command.source? = some label → draft.isStarted label = true
  fresh : ∀ label, command.start? = some label → draft.isStarted label = false

def claim (draft : Draft) : Option Label → Draft
  | some label => draft.setStarted label
  | none => draft

def lay (draft : Draft) (command : Command) : Draft :=
  match command.planned? with
  | some hit => (draft.claim command.start?).addHit hit.label hit.frame
  | none => draft.claim command.start?

end Draft

/-- The reader succeeds exactly on what is spelled so and permitted, and lays it down. -/
def Reader.Reads (reader : Reader) (spells : List String → Command → Prop) : Prop :=
  ∀ args draft command after, (reader args).run draft = (.ok command, after) ↔
    spells args command ∧ draft.Permits command ∧ after = draft.lay command

-- ---------------------------------------------------------------------------
-- The reading monad
-- ---------------------------------------------------------------------------

namespace Reading

variable {x : Reading α} {f : α → Reading β} {draft after : Draft}

theorem run_bind (x : Reading α) (f : α → Reading β) (draft : Draft) :
    (x >>= f).run draft = match x.run draft with
      | (.ok a, middle) => (f a).run middle
      | (.error e, middle) => (.error e, middle) := by
  change (match x.run draft with
    | (result, middle) => (ExceptT.bindCont f result : StateM Draft _) middle) = _
  rcases x.run draft with ⟨_ | a, middle⟩ <;> rfl

theorem bind_ok : (x >>= f).run draft = (.ok b, after) ↔
    ∃ a middle, x.run draft = (.ok a, middle) ∧ (f a).run middle = (.ok b, after) := by
  rw [run_bind]
  rcases x.run draft with ⟨_ | a, middle⟩
  · exact ⟨fun h => (nomatch h), fun ⟨_, _, h, _⟩ => (nomatch h)⟩
  · exact ⟨fun h => ⟨a, middle, rfl, h⟩, fun ⟨_, _, h, hf⟩ => by cases h; exact hf⟩

theorem bind_error {error : ReadError} : (x >>= f).run draft = (.error error, after) ↔
    x.run draft = (.error error, after) ∨
      ∃ a middle, x.run draft = (.ok a, middle) ∧ (f a).run middle = (.error error, after) := by
  rw [run_bind]
  rcases x.run draft with ⟨_ | a, middle⟩
  · constructor
    · intro h
      cases h
      exact .inl rfl
    · rintro (h | ⟨_, _, h, -⟩)
      · cases h
        rfl
      · cases h
  · refine ⟨fun h => .inr ⟨a, middle, rfl, h⟩, ?_⟩
    rintro (h | ⟨_, _, h, hf⟩)
    · cases h
    · cases h
      exact hf

theorem pure_ok : (pure a : Reading α).run draft = (.ok b, after) ↔ a = b ∧ draft = after := by
  change (Except.ok a, draft) = (Except.ok b, after) ↔ _
  simp

theorem throw_ok {e : ReadError} : (throw e : Reading α).run draft = (.ok b, after) ↔ False := by
  change (Except.error e, draft) = (Except.ok b, after) ↔ _
  simp

theorem lift_ok {e : Except ReadError α} :
    (liftM e : Reading α).run draft = (.ok b, after) ↔ e = .ok b ∧ draft = after := by
  change (e, draft) = (Except.ok b, after) ↔ _
  simp

theorem get_ok : (get : Reading Draft).run draft = (.ok b, after) ↔ draft = b ∧ draft = after := by
  change (Except.ok draft, draft) = (Except.ok b, after) ↔ _
  simp

theorem modify_ok {g : Draft → Draft} :
    (modify g : Reading Unit).run draft = (.ok b, after) ↔ g draft = after := by
  change (Except.ok (), g draft) = (Except.ok b, after) ↔ _
  simp

theorem throwIf_ok {c : Prop} [Decidable c] {e : ReadError} {k : Reading β} {k' : α → Reading β} :
    (if c then throw e >>= k' else k).run draft = (.ok b, after) ↔
      ¬ c ∧ k.run draft = (.ok b, after) := by
  by_cases h : c
  · simp only [h, if_true, bind_ok, throw_ok, false_and, exists_false, not_true_eq_false]
  · simp only [h, if_false, not_false_eq_true, true_and]

theorem orThrow_ok {c : Prop} [Decidable c] {e : ReadError} {k : Reading β} {k' : α → Reading β} :
    (if c then k else throw e >>= k').run draft = (.ok b, after) ↔
      c ∧ k.run draft = (.ok b, after) := by
  by_cases h : c
  · simp only [h, if_true, true_and]
  · simp only [h, if_false, bind_ok, throw_ok, false_and, exists_false]

end Reading

-- ---------------------------------------------------------------------------
-- Values
-- ---------------------------------------------------------------------------

theorem readNatural_ok {quantity : Quantity} {text : String} {n : UInt32} :
    readNatural quantity text = .ok n ↔ SpellsNatural text n := by
  unfold readNatural SpellsNatural
  cases Text.int32? text with
  | none => simp
  | some i =>
    simp only [Option.some.injEq, exists_eq_left']
    have hle : 0 ≤ i ↔ 0 ≤ i.toInt := Int32.le_iff_toInt_le
    split
    · rename_i h
      have hi : (i.toUInt32.toNat : Int) = i.toInt := by
        rw [Int32.toNat_toUInt32_of_le h]
        exact Int.toNat_of_nonneg (hle.1 h)
      rw [Except.ok.injEq, ← hi, Int.natCast_inj, UInt32.toNat_inj, eq_comm]
    · rename_i h
      simp only [reduceCtorEq, false_iff]
      intro hn
      exact h (hle.2 (by omega))

theorem readDuration_ok {letter : Char} {options : List (Char × String)} {default ms : UInt32} :
    readDuration options letter default = .ok ms ↔
      SpellsDuration default (options.lookup letter) ms := by
  unfold readDuration
  cases options.lookup letter with
  | none => simp [SpellsDuration, eq_comm]
  | some text => exact readNatural_ok

theorem readLabel_ok {letter : Char} {text : String} {label : Label} :
    readLabel letter text = .ok label ↔ Label.ofDigit? text = some label := by
  unfold readLabel
  cases Label.ofDigit? text <;> simp

theorem readSource_ok {options : List (Char × String)} {label : Label} :
    Hit.readSource options = .ok label ↔ SpellsSource (options.lookup 'l') label := by
  unfold Hit.readSource
  cases options.lookup 'l' with
  | none =>
    rw [SpellsSource, Except.ok.injEq, Fin.ext_iff]
    exact eq_comm
  | some text => exact readLabel_ok

theorem correct_eq_iff {frame corrected : UInt32} {i : Int32} {text : String}
    (hf : SpellsNatural text frame) :
    Hit.correct frame i = corrected ↔
      (corrected.toNat : Int) = max 0 (frame.toNat + i.toInt) := by
  obtain ⟨j, -, hj⟩ := hf
  have hi := i.toInt_lt
  have hj' := j.toInt_lt
  have hlt : ((frame.toNat : Int) + i.toInt).toNat < 2 ^ 32 := by omega
  rw [← UInt32.toNat_inj, Hit.correct, UInt32.toNat_ofNat_of_lt' hlt]
  omega

theorem readCorrection_ok {options : List (Char × String)} {frame corrected : UInt32}
    {text : String} (hf : SpellsNatural text frame) :
    Hit.readCorrection options frame = .ok corrected ↔
      SpellsCorrection frame (options.lookup 'c') corrected := by
  unfold Hit.readCorrection readInteger
  cases options.lookup 'c' with
  | none => simp [SpellsCorrection, eq_comm]
  | some value =>
    simp only [SpellsCorrection]
    cases Text.int32? value with
    | none => simp [Except.map]
    | some i => simp [Except.map, correct_eq_iff hf]

theorem mapM_eq_some {f : α → Option β} {xs : List α} {ys : List β} :
    xs.mapM f = some ys ↔ List.Forall₂ (fun x y => f x = some y) xs ys := by
  induction xs generalizing ys with
  | nil => cases ys <;> simp
  | cons x xs ih =>
    rw [List.mapM_cons]
    cases ys with
    | nil => cases f x <;> cases xs.mapM f <;> simp
    | cons y ys =>
      rw [List.forall₂_cons, ← ih]
      cases f x <;> cases xs.mapM f <;> simp

theorem readGroups_ok {text : String} {groups : List Buttons} :
    Press.readGroups text = .ok groups ↔ SpellsGroups text groups := by
  rw [SpellsGroups, ← mapM_eq_some]
  simp only [Press.readGroups]
  split <;> simp_all

-- ---------------------------------------------------------------------------
-- Options
-- ---------------------------------------------------------------------------

theorem lookup_perm {α : Type} {pairs others : List (Char × α)} (h : pairs.Perm others)
    (hn : (pairs.map Prod.fst).Nodup) (letter : Char) :
    pairs.lookup letter = others.lookup letter := by
  induction h with
  | nil => rfl
  | cons pair _ ih =>
    obtain ⟨-, hrest⟩ := List.nodup_cons.1 hn
    rw [List.lookup_cons, List.lookup_cons, ih hrest]
  | swap first second rest =>
    obtain ⟨hne, -⟩ := List.nodup_cons.1 hn
    have hkeys : second.1 ≠ first.1 := fun he => hne (by simp [he])
    rw [List.lookup_cons, List.lookup_cons, List.lookup_cons, List.lookup_cons]
    cases hs : letter == second.1 with
    | true =>
      have hf : (letter == first.1) = false := by simpa [eq_of_beq hs] using hkeys
      simp [hf]
    | false => rfl
  | trans hfirst _ ihfirst ihsecond =>
    have hmiddle := (hfirst.map Prod.fst).nodup_iff.1 hn
    rw [ihfirst hn, ihsecond hmiddle]

theorem lookup_reverse {pairs : List (Char × String)} (h : (pairs.map Prod.fst).Nodup)
    (letter : Char) : pairs.reverse.lookup letter = pairs.lookup letter :=
  (lookup_perm pairs.reverse_perm.symm h letter).symm

theorem optionsWritten_nil (letters : List Char) : OptionsWritten letters [] :=
  ⟨by simp, by simp⟩

theorem optionsWritten_cons {letters : List Char} {option : String} {rest : List String}
    {letter : Char} {value : String} (hs : splitOption? option = some (letter, value)) :
    OptionsWritten letters (option :: rest) ↔ letter ∈ letters ∧
      (∀ pair ∈ rest.filterMap splitOption?, pair.1 ≠ letter) ∧ OptionsWritten letters rest := by
  constructor
  · rintro ⟨heach, honce⟩
    rw [List.filterMap_cons_some hs, List.map_cons, List.nodup_cons] at honce
    obtain ⟨letter', hl, value', hv⟩ := heach option List.mem_cons_self
    obtain ⟨rfl, rfl⟩ : letter = letter' ∧ value = value' := by simpa [hs] using hv
    refine ⟨hl, fun pair hp he => honce.1 ?_, ?_, honce.2⟩
    · exact List.mem_map.2 ⟨pair, hp, he⟩
    · exact fun option ho => heach option (List.mem_cons_of_mem _ ho)
  · rintro ⟨hl, hne, heach, honce⟩
    refine ⟨?_, ?_⟩
    · intro option' ho
      rcases List.mem_cons.1 ho with rfl | ho
      · exact ⟨letter, hl, value, hs⟩
      · exact heach option' ho
    · rw [List.filterMap_cons_some hs, List.map_cons, List.nodup_cons]
      refine ⟨fun hm => ?_, honce⟩
      obtain ⟨pair, hp, he⟩ := List.mem_map.1 hm
      exact hne pair hp he

theorem readOptionsAfter_ok {letters : List Char} {seen pairs : List (Char × String)}
    {options : List String} :
    readOptionsAfter letters seen options = .ok pairs ↔
      OptionsWritten letters options ∧
        (∀ pair ∈ options.filterMap splitOption?, seen.lookup pair.1 = none) ∧
        pairs = (options.filterMap splitOption?).reverse ++ seen := by
  induction options generalizing seen with
  | nil =>
    rw [readOptionsAfter, Except.ok.injEq]
    simp [optionsWritten_nil, eq_comm (a := pairs)]
  | cons option rest ih =>
    rw [readOptionsAfter]
    cases hs : splitOption? option with
    | none =>
      refine iff_of_false (by simp) fun h => ?_
      obtain ⟨_, -, _, hv⟩ := h.1.each option List.mem_cons_self
      simp [hs] at hv
    | some pair =>
      obtain ⟨letter, value⟩ := pair
      simp only [optionsWritten_cons hs, List.filterMap_cons_some hs, List.forall_mem_cons,
        List.reverse_cons, List.append_assoc, List.singleton_append]
      by_cases hl : letter ∈ letters
      · cases hseen : seen.lookup letter with
        | some other => simp [hl]
        | none =>
          simp only [hl, not_true_eq_false, if_false, Option.isSome_none, Bool.false_eq_true,
            true_and, ih, List.lookup_cons]
          constructor
          · rintro ⟨hw, hseen', rfl⟩
            refine ⟨⟨fun pair hp he => ?_, hw⟩, fun pair hp => ?_, rfl⟩
            · simpa [he] using hseen' pair hp
            · have := hseen' pair hp
              split at this
              · simp at this
              · exact this
          · rintro ⟨⟨hne, hw⟩, hseen', rfl⟩
            refine ⟨hw, fun pair hp => ?_, rfl⟩
            rw [beq_eq_false_iff_ne.2 (hne pair hp)]
            exact hseen' pair hp
      · simp [hl]

/-- The options of a line are read exactly when they are well written, and give each
letter its value. -/
theorem readOptions_ok {letters : List Char} {options : List String}
    {pairs : List (Char × String)} :
    readOptions letters options = .ok pairs ↔ OptionsWritten letters options ∧
      pairs = (options.filterMap splitOption?).reverse := by
  simp [readOptions, readOptionsAfter_ok]

theorem OptionsWritten.lookup_reverse (h : OptionsWritten letters options) (letter : Char) :
    (options.filterMap splitOption?).reverse.lookup letter = optionValue? letter options :=
  PadScript.lookup_reverse h.once letter

-- ---------------------------------------------------------------------------
-- Readers
-- ---------------------------------------------------------------------------

theorem claim_ok {label : Label} {draft after : Draft} {u : Unit} :
    (Reading.claim label).run draft = (.ok u, after) ↔
      draft.isStarted label = false ∧ draft.setStarted label = after := by
  unfold Reading.claim
  simp only [Reading.bind_ok, Reading.get_ok]
  constructor
  · rintro ⟨_, _, ⟨rfl, rfl⟩, h⟩
    cases hl : draft.isStarted label with
    | true =>
      simp only [hl, if_true, Reading.bind_ok, Reading.throw_ok, false_and, exists_false] at h
    | false => simpa [hl, Reading.modify_ok] using h
  · rintro ⟨hl, h⟩
    refine ⟨draft, draft, ⟨rfl, rfl⟩, ?_⟩
    simpa [hl, Reading.modify_ok] using h

theorem claimStart_ok {value : Option String} {draft after : Draft} {start : Option Label} :
    (Reading.claimStart value).run draft = (.ok start, after) ↔ SpellsStart value start ∧
      (∀ label, start = some label → draft.isStarted label = false) ∧
      draft.claim start = after := by
  unfold Reading.claimStart
  cases value with
  | none =>
    simp only [Reading.pure_ok, SpellsStart]
    constructor
    · rintro ⟨rfl, rfl⟩
      exact ⟨rfl, by simp, rfl⟩
    · rintro ⟨rfl, -, rfl⟩
      exact ⟨rfl, rfl⟩
  | some text =>
    simp only [Reading.bind_ok, Reading.lift_ok, Reading.pure_ok, readLabel_ok, claim_ok,
      SpellsStart]
    constructor
    · rintro ⟨label, _, ⟨hl, rfl⟩, _, _, ⟨hf, rfl⟩, rfl, rfl⟩
      exact ⟨⟨label, hl, rfl⟩, by simpa using hf, rfl⟩
    · rintro ⟨⟨label, hl, rfl⟩, hf, rfl⟩
      exact ⟨label, draft, ⟨hl, rfl⟩, (), _, ⟨hf label rfl, rfl⟩, rfl, rfl⟩

theorem readButton_ok {symbol : String} {button : Buttons} :
    Hit.readButton symbol = .ok button ↔ Buttons.ofSymbol? symbol = some button := by
  unfold Hit.readButton
  cases Buttons.ofSymbol? symbol <;> simp

theorem press_reads : Press.read.Reads fun args => Spells ("Press" :: args) := by
  intro args draft command after
  unfold Press.read
  cases args with
  | nil =>
    refine iff_of_false (fun h => Reading.throw_ok.1 h) ?_
    cases command <;> simp [Spells]
  | cons groupsText options =>
    simp only [Reading.throwIf_ok, Reading.bind_ok, Reading.lift_ok, Reading.pure_ok,
      claimStart_ok, readGroups_ok, readOptions_ok, readDuration_ok]
    constructor
    · rintro ⟨hfew, groups, _, ⟨hg, rfl⟩, _, _, ⟨⟨hw, rfl⟩, rfl⟩, durationMs, _, ⟨hd, rfl⟩,
        intervalMs, _, ⟨hi, rfl⟩, start, _, ⟨hs, hf, rfl⟩, rfl, rfl⟩
      rw [hw.lookup_reverse] at hd hi hs
      exact ⟨⟨_, _, rfl, by omega, hg, hw, hd, hi, hs⟩, ⟨by simp [Command.source?], hf⟩, rfl⟩
    · rintro ⟨h, hp, rfl⟩
      cases command <;> simp [Spells] at h
      obtain ⟨hfew, hg, hw, hd, hi, hs⟩ := h
      rw [← hw.lookup_reverse] at hd hi hs
      exact ⟨by omega, _, _, ⟨hg, rfl⟩, _, _, ⟨⟨hw, rfl⟩, rfl⟩, _, _, ⟨hd, rfl⟩, _, _, ⟨hi, rfl⟩,
        _, _, ⟨hs, hp.fresh, rfl⟩, rfl, rfl⟩

theorem wait_reads : Wait.read.Reads fun args => Spells ("Wait" :: args) := by
  intro args draft command after
  unfold Wait.read
  match args with
  | [text] =>
    simp only [Reading.bind_ok, Reading.lift_ok, Reading.pure_ok, readNatural_ok]
    constructor
    · rintro ⟨ms, _, ⟨hms, rfl⟩, rfl, rfl⟩
      exact ⟨⟨_, rfl, hms⟩, ⟨by simp [Command.source?], by simp [Command.start?]⟩, rfl⟩
    · rintro ⟨h, hp, rfl⟩
      cases command <;> simp [Spells] at h
      exact ⟨_, _, ⟨h, rfl⟩, rfl, rfl⟩
  | [] | _ :: _ :: _ =>
    refine iff_of_false (fun h => Reading.throw_ok.1 h) ?_
    cases command <;> simp [Spells]

theorem splitOption?_eq_some {arg value : String} {letter : Char} :
    splitOption? arg = some (letter, value) ↔ arg.toList = '-' :: letter :: '=' :: value.toList ∧
      letter.isLower = true ∧ value.toList ≠ [] ∧ '\n' ∉ value.toList := by
  unfold splitOption?
  split
  · rename_i letter' value' h
    rw [h]
    simp only [Option.ite_none_right_eq_some, Option.some.injEq, Prod.mk.injEq, List.cons.injEq,
      true_and]
    constructor
    · rintro ⟨hok, rfl, rfl⟩
      simpa using hok
    · rintro ⟨⟨rfl, rfl⟩, hok⟩
      exact ⟨hok, rfl, String.ofList_toList⟩
  · rename_i h
    simp only [reduceCtorEq, false_iff, not_and]
    intro he
    exact absurd he (h _ _)

theorem splitOption?_of_digit {arg value : String} {label : Label}
    (h : Label.ofDigit? value = some label) :
    splitOption? arg = some ('s', value) ↔ arg.toList = '-' :: 's' :: '=' :: value.toList := by
  unfold Label.ofDigit? at h
  split at h
  · rename_i c hc
    rw [splitOption?_eq_some, hc]
    refine ⟨fun h => h.1, fun ha => ⟨ha, by decide, by simp, ?_⟩⟩
    simp only [List.mem_singleton]
    rintro rfl
    simp at h
  · simp at h

theorem start_spelledBy_singleton {start : Start} {option : String} :
    start.SpelledBy [option] ↔ ∃ value label, option.toList = '-' :: 's' :: '=' :: value ∧
      Label.ofDigit? (String.ofList value) = some label ∧ start.start = some label := by
  constructor
  · rintro ⟨-, hw, hs⟩
    obtain ⟨letter, hl, value, hv⟩ := hw.each option List.mem_cons_self
    obtain rfl := List.mem_singleton.1 hl
    simp only [optionValue?, List.filterMap_cons_some hv, List.filterMap_nil, List.lookup_cons_self,
      SpellsStart] at hs
    obtain ⟨label, hd, hstart⟩ := hs
    refine ⟨value.toList, label, (splitOption?_eq_some.1 hv).1, ?_, hstart⟩
    rwa [String.ofList_toList]
  · rintro ⟨value, label, ho, hd, hstart⟩
    have hv : splitOption? option = some ('s', String.ofList value) :=
      (splitOption?_of_digit hd).2 (by rw [ho, String.toList_ofList])
    refine ⟨by simp, (optionsWritten_cons hv).2 ⟨by simp, by simp, optionsWritten_nil _⟩, ?_⟩
    simp only [optionValue?, List.filterMap_cons_some hv, List.filterMap_nil, List.lookup_cons_self]
    exact ⟨label, hd, hstart⟩

theorem start_reads : Start.read.Reads fun args => Spells ("Start" :: args) := by
  intro args draft command after
  unfold Start.read
  match args with
  | [] =>
    simp only [Reading.pure_ok]
    constructor
    · rintro ⟨rfl, rfl⟩
      have hpermits : draft.Permits (.start ⟨none⟩) :=
        ⟨by simp [Command.source?], by simp [Command.start?]⟩
      exact ⟨⟨_, rfl, by simp, optionsWritten_nil _, rfl⟩, hpermits, rfl⟩
    · rintro ⟨h, -, rfl⟩
      cases command <;> simp [Spells] at h
      rename_i start
      obtain ⟨start⟩ := start
      obtain rfl : start = none := h.start
      exact ⟨rfl, rfl⟩
  | [option] =>
    have hspells : Spells ["Start", option] command ↔
        ∃ start : Start, command = .start start ∧ start.SpelledBy [option] := by
      cases command <;> simp [Spells]
    simp only [hspells, start_spelledBy_singleton]
    split
    · rename_i value ho
      simp only [Reading.bind_ok, Reading.pure_ok, claimStart_ok, SpellsStart, ho]
      constructor
      · rintro ⟨_, _, ⟨⟨label, hd, rfl⟩, hf, rfl⟩, rfl, rfl⟩
        exact ⟨⟨_, rfl, value, label, rfl, hd, rfl⟩, ⟨by simp [Command.source?], hf⟩, rfl⟩
      · rintro ⟨⟨⟨start⟩, rfl, _, label, he, hd, rfl⟩, hp, rfl⟩
        simp only [List.cons.injEq, true_and] at he
        subst he
        exact ⟨_, _, ⟨⟨label, hd, rfl⟩, hp.fresh, rfl⟩, rfl, rfl⟩
    · rename_i hno
      refine iff_of_false (fun h => Reading.throw_ok.1 h) ?_
      rintro ⟨⟨_, rfl, value, _, ho, -⟩, -⟩
      exact hno value ho
  | _ :: _ :: _ =>
    refine iff_of_false (fun h => Reading.throw_ok.1 h) ?_
    rintro ⟨h, -⟩
    cases command <;> simp [Spells] at h
    have := h.few
    simp at this

theorem hit_reads : Hit.read.Reads fun args => Spells ("Hit" :: args) := by
  intro args draft command after
  unfold Hit.read
  match args with
  | [] | [_] =>
    refine iff_of_false (fun h => Reading.throw_ok.1 h) ?_
    cases command <;> simp [Spells]
  | symbol :: frameText :: options =>
    simp only [Reading.throwIf_ok, Reading.orThrow_ok, Reading.bind_ok, Reading.lift_ok,
      Reading.pure_ok, Reading.get_ok, Reading.modify_ok, claimStart_ok, readButton_ok,
      readNatural_ok, readOptions_ok, readDuration_ok, readSource_ok]
    constructor
    · rintro ⟨hfew, button, _, ⟨hb, rfl⟩, frame, _, ⟨hf, rfl⟩, _, _, ⟨⟨hw, rfl⟩, rfl⟩,
        durationMs, _, ⟨hd, rfl⟩, label, _, ⟨hl, rfl⟩, _, _, ⟨rfl, rfl⟩, hstarted, corrected, _,
        ⟨hc, rfl⟩, start, _, ⟨hs, hfresh, rfl⟩, _, _, rfl, rfl, rfl⟩
      rw [readCorrection_ok hf] at hc
      rw [hw.lookup_reverse] at hd hl hc hs
      refine ⟨⟨_, _, _, rfl, by omega, hb, hw, hd, hl, ⟨frame, hf, hc⟩, hs⟩, ⟨?_, hfresh⟩, rfl⟩
      simpa [Command.source?] using hstarted
    · rintro ⟨h, hp, rfl⟩
      cases command <;> simp [Spells] at h
      obtain ⟨hfew, hb, hw, hd, hl, ⟨frame, hf, hc⟩, hs⟩ := h
      rw [← hw.lookup_reverse] at hd hl hc hs
      exact ⟨by omega, _, _, ⟨hb, rfl⟩, _, _, ⟨hf, rfl⟩, _, _, ⟨⟨hw, rfl⟩, rfl⟩, _, _, ⟨hd, rfl⟩,
        _, _, ⟨hl, rfl⟩, _, _, ⟨rfl, rfl⟩, hp.source _ rfl, _, _,
        ⟨(readCorrection_ok hf).2 hc, rfl⟩, _, _, ⟨hs, hp.fresh, rfl⟩, (), _, rfl, rfl, rfl⟩

theorem reset_reads : SoftReset.read.Reads fun args command =>
    args = [] ∧ command = .extension SoftReset.routine := by
  intro args draft command after
  unfold SoftReset.read
  cases args with
  | nil =>
    rw [Reading.pure_ok]
    constructor
    · rintro ⟨rfl, rfl⟩
      exact ⟨⟨rfl, rfl⟩, ⟨by simp [Command.source?], by simp [Command.start?]⟩, rfl⟩
    · rintro ⟨⟨-, rfl⟩, -, rfl⟩
      exact ⟨rfl, rfl⟩
  | cons arg rest => exact iff_of_false (fun h => Reading.throw_ok.1 h) (by simp)

-- ---------------------------------------------------------------------------
-- One command for a line
-- ---------------------------------------------------------------------------

theorem SpellsNatural.unique {text : String} {n m : UInt32} (h : SpellsNatural text n)
    (h' : SpellsNatural text m) : n = m := by
  obtain ⟨i, hi, hn⟩ := h
  obtain ⟨j, hj, hm⟩ := h'
  obtain rfl := Option.some.inj (hi.symm.trans hj)
  exact UInt32.toNat_inj.1 (by omega)

theorem SpellsDuration.unique {default n m : UInt32} {value : Option String}
    (h : SpellsDuration default value n) (h' : SpellsDuration default value m) : n = m := by
  cases value with
  | none => exact h.trans h'.symm
  | some text => exact SpellsNatural.unique h h'

theorem SpellsStart.unique {value : Option String} {start start' : Option Label}
    (h : SpellsStart value start) (h' : SpellsStart value start') : start = start' := by
  cases value with
  | none => exact h.trans h'.symm
  | some text =>
    obtain ⟨label, hl, rfl⟩ := h
    obtain ⟨label', hl', rfl⟩ := h'
    rw [← hl, hl']

theorem SpellsSource.unique {value : Option String} {label label' : Label}
    (h : SpellsSource value label) (h' : SpellsSource value label') : label = label' := by
  cases value with
  | none => exact Fin.ext (h.trans h'.symm)
  | some text => exact Option.some.inj (h.symm.trans h')

theorem SpellsCorrection.unique {frame n m : UInt32} {value : Option String}
    (h : SpellsCorrection frame value n) (h' : SpellsCorrection frame value m) : n = m := by
  cases value with
  | none => exact h.trans h'.symm
  | some text =>
    obtain ⟨i, hi, hn⟩ := h
    obtain ⟨j, hj, hm⟩ := h'
    obtain rfl := Option.some.inj (hi.symm.trans hj)
    exact UInt32.toNat_inj.1 (by omega)

theorem SpellsGroups.unique {text : String} {groups groups' : List Buttons}
    (h : SpellsGroups text groups) (h' : SpellsGroups text groups') : groups = groups' :=
  Option.some.inj ((mapM_eq_some.2 h).symm.trans (mapM_eq_some.2 h'))

theorem Press.SpelledBy.unique {press press' : Press} {groupsText : String}
    {options : List String} (h : press.SpelledBy groupsText options)
    (h' : press'.SpelledBy groupsText options) : press = press' := by
  cases press
  cases press'
  simp only [Press.mk.injEq]
  exact ⟨h.groups.unique h'.groups, h.duration.unique h'.duration,
    h.interval.unique h'.interval, h.start.unique h'.start⟩

theorem Hit.SpelledBy.unique {hit hit' : Hit} {symbol frameText : String}
    {options : List String} (h : hit.SpelledBy symbol frameText options)
    (h' : hit'.SpelledBy symbol frameText options) : hit = hit' := by
  obtain ⟨frame, hf, hc⟩ := h.frame
  obtain ⟨frame', hf', hc'⟩ := h'.frame
  obtain rfl := hf.unique hf'
  cases hit
  cases hit'
  simp only [Hit.mk.injEq]
  exact ⟨Option.some.inj (h.button.symm.trans h'.button), hc.unique hc',
    h.label.unique h'.label, h.duration.unique h'.duration, h.start.unique h'.start⟩

theorem Spells.unique {line : List String} {command command' : Command}
    (h : Spells line command) (h' : Spells line command') : command = command' := by
  cases command with
  | press press =>
    obtain ⟨groupsText, options, rfl, h⟩ := h
    cases command' <;> simp [Spells] at h'
    rw [h.unique h']
  | wait wait =>
    obtain ⟨text, rfl, h⟩ := h
    cases command' <;> simp [Spells] at h'
    exact congrArg (fun ms => Command.wait ⟨ms⟩) (h.unique h')
  | start start =>
    obtain ⟨options, rfl, h⟩ := h
    cases command' <;> simp [Spells] at h'
    exact congrArg (fun label => Command.start ⟨label⟩) (h.start.unique h'.start)
  | hit hit =>
    obtain ⟨symbol, frameText, options, rfl, h⟩ := h
    cases command' <;> simp [Spells] at h'
    rw [h.unique h']
  | extension routine => exact absurd h id

end PadScript
