import Mathlib.Algebra.Group.Int.Defs
import PadScript.Proofs.Script.Reordering
import PadScript.Proofs.Script.Values

/-!
# Numbers on a line

A number is read from any text that is a decimal numeral, with a sign or without and with zeros in
front or none, and from no other (`integer?_eq_some_iff`). Whatever else a command says, a text is
taken for its number exactly when it is a numeral of a value that fits, and the command has that
value. A hit is planned for its frame and its correction together, but never below 0; the sum of
two words always fits (`numbers_exact`).
-/

namespace PadScript

-- ---------------------------------------------------------------------------
-- Numerals
-- ---------------------------------------------------------------------------

namespace Text

variable {n : Nat} {i : Int} {c : Char} {text rest : List Char}

theorem digitChar_of_isDigit (h : c.isDigit = true) :
    c.toNat - 48 < 10 ∧ Nat.digitChar (c.toNat - 48) = c := by
  obtain ⟨hlow, hhigh⟩ := Bool.and_eq_true_iff.1 h
  have hlow : 48 ≤ c.toNat := UInt32.le_iff_toNat_le.1 (of_decide_eq_true hlow)
  have hhigh : c.toNat ≤ 57 := UInt32.le_iff_toNat_le.1 (of_decide_eq_true hhigh)
  have hlt : c.toNat - 48 < 10 := by omega
  refine ⟨hlt, Char.toNat_inj.1 ?_⟩
  rw [Nat.toNat_digitChar_of_lt_ten hlt]
  omega

theorem digits_singleton (h : c.isDigit = true) : Digits (c.toNat - 48) [c] := by
  obtain ⟨hlt, hchar⟩ := digitChar_of_isDigit h
  exact ⟨0, by simp [Nat.toDigits_of_lt_base hlt, hchar]⟩

theorem Digits.concat (h : Digits n text) (hc : c.isDigit = true) :
    Digits (10 * n + (c.toNat - 48)) (text ++ [c]) := by
  obtain ⟨hlt, hchar⟩ := digitChar_of_isDigit hc
  obtain ⟨zeros, rfl⟩ := h
  rcases Nat.eq_zero_or_pos n with rfl | hn
  · -- all zeros so far
    refine ⟨zeros + 1, ?_⟩
    rw [Nat.mul_zero, Nat.zero_add, Nat.toDigits_of_lt_base hlt, hchar, Nat.toDigits_zero,
      List.replicate_succ']
  · refine ⟨zeros, ?_⟩
    rw [← Nat.toDigits_append_toDigits (by decide) hn hlt, Nat.toDigits_of_lt_base hlt, hchar,
      List.append_assoc]

theorem Digits.append (h : Digits n text) (hrest : ∀ c ∈ rest, c.isDigit = true) :
    Digits (Nat.ofDigitChars 10 rest n) (text ++ rest) := by
  induction rest generalizing n text with
  | nil => simpa using h
  | cons c rest ih =>
    obtain ⟨hc, hrest⟩ := List.forall_mem_cons.1 hrest
    simpa [Nat.ofDigitChars_cons] using ih (h.concat hc) hrest

theorem digits_iff : Digits n text ↔
    text ≠ [] ∧ (∀ c ∈ text, c.isDigit = true) ∧ Nat.ofDigitChars 10 text 0 = n := by
  constructor
  · intro h
    have hvalue := h.natural?
    rw [Text.natural?, if_pos ⟨h.ne_nil, List.all_eq_true.2 fun c hc => h.isDigit hc⟩] at hvalue
    exact ⟨h.ne_nil, fun c hc => h.isDigit hc, Option.some.inj hvalue⟩
  · rintro ⟨hne, hdigits, rfl⟩
    obtain ⟨c, rest, rfl⟩ := List.exists_cons_of_ne_nil hne
    obtain ⟨hc, hrest⟩ := List.forall_mem_cons.1 hdigits
    simpa [Nat.ofDigitChars_cons] using (digits_singleton hc).append hrest

theorem natural?_eq_some_iff : natural? text = some n ↔ Digits n text := by
  refine ⟨fun h => ?_, Digits.natural?⟩
  unfold natural? at h
  split at h
  · rename_i hdigits
    exact digits_iff.2 ⟨hdigits.1, List.all_eq_true.1 hdigits.2, Option.some.inj h⟩
  · cases h

theorem integer?_eq_some_iff : integer? text = some i ↔ Decimal i text := by
  refine ⟨fun h => ?_, Decimal.integer?⟩
  unfold integer? at h
  split at h <;> obtain ⟨n, hn, rfl⟩ := Option.map_eq_some_iff.1 h
  · obtain ⟨m, hm, hn⟩ := Option.bind_eq_some_iff.1 hn
    obtain rfl := Option.some.inj hn
    exact .minus (natural?_eq_some_iff.1 hm)
  · exact .plus (natural?_eq_some_iff.1 hn)
  · exact .bare (natural?_eq_some_iff.1 hn)

/-- An optional sign and at least one ASCII digit, and the number that they write. -/
def Numeral (i : Int) (text : String) : Prop :=
  ∃ sign digits, text.toList = sign ++ digits ∧ digits ≠ [] ∧
    (∀ c ∈ digits, c.isDigit = true) ∧
    ((sign = [] ∨ sign = ['+']) ∧ i = Int.ofNat (Nat.ofDigitChars 10 digits 0) ∨
      sign = ['-'] ∧ i = -Int.ofNat (Nat.ofDigitChars 10 digits 0))

theorem numeral_iff {text : String} : Numeral i text ↔ Decimal i text.toList := by
  constructor
  · rintro ⟨sign, digits, htext, hne, hdigits, hsign⟩
    have h := digits_iff.2 ⟨hne, hdigits, rfl⟩
    rw [htext]
    obtain ⟨rfl | rfl, rfl⟩ | ⟨rfl, rfl⟩ := hsign
    · exact .bare h
    · exact .plus h
    · exact .minus h
  · intro h
    generalize htext : text.toList = chars at h
    cases h with
    | bare digits =>
      obtain ⟨hne, hdigits, rfl⟩ := digits_iff.1 digits
      exact ⟨[], _, htext, hne, hdigits, .inl ⟨.inl rfl, rfl⟩⟩
    | plus digits =>
      obtain ⟨hne, hdigits, rfl⟩ := digits_iff.1 digits
      exact ⟨['+'], _, htext, hne, hdigits, .inl ⟨.inr rfl, rfl⟩⟩
    | minus digits =>
      obtain ⟨hne, hdigits, rfl⟩ := digits_iff.1 digits
      exact ⟨['-'], _, htext, hne, hdigits, .inr ⟨rfl, rfl⟩⟩

theorem Numeral.unique {text : String} {j : Int} (h : Numeral i text) (h' : Numeral j text) :
    i = j :=
  Option.some.inj ((numeral_iff.1 h).integer?.symm.trans (numeral_iff.1 h').integer?)

theorem int32?_eq_some_iff {text : String} {i : Int32} :
    int32? text = some i ↔ Numeral i.toInt text := by
  rw [numeral_iff]
  constructor
  · intro h
    obtain ⟨n, hn, hi⟩ := Option.bind_eq_some_iff.1 h
    obtain ⟨⟨hlow, hhigh⟩, hi⟩ := Option.ite_none_right_eq_some.1 hi
    obtain rfl := Option.some.inj hi
    rw [Int32.toInt_ofInt_of_le hlow (Int.lt_of_le_of_lt hhigh (by decide))]
    exact integer?_eq_some_iff.1 hn
  · intro h
    rw [← String.ofList_toList (s := text)]
    exact h.int32?

end Text

open Text

theorem spellsNatural_iff {text : String} {n : UInt32} :
    SpellsNatural text n ↔ Numeral n.toNat text ∧ (n.toNat : Int) < 2 ^ 31 := by
  constructor
  · rintro ⟨i, hi, hn⟩
    have hlt := i.toInt_lt
    rw [hn]
    exact ⟨int32?_eq_some_iff.1 hi, hlt⟩
  · rintro ⟨h, hlt⟩
    have hvalue : (Int32.ofInt n.toNat).toInt = n.toNat :=
      Int32.toInt_ofInt_of_le (by omega) hlt
    exact ⟨.ofInt n.toNat, int32?_eq_some_iff.2 (hvalue.symm ▸ h), hvalue.symm⟩

theorem exists_spellsNatural {text : String} {n : Int} (h : Numeral n text) (hn : 0 ≤ n)
    (hlt : n < 2 ^ 31) : ∃ x, SpellsNatural text x ∧ (x.toNat : Int) = n := by
  have hvalue : (UInt32.ofNat n.toNat).toNat = n.toNat := UInt32.toNat_ofNat_of_lt' (by
    change n.toNat < 4294967296
    omega)
  have hsame : ((UInt32.ofNat n.toNat).toNat : Int) = n := by omega
  exact ⟨_, spellsNatural_iff.2 ⟨hsame.symm ▸ h, hsame.symm ▸ hlt⟩, hsame⟩

-- ---------------------------------------------------------------------------
-- Corrections
-- ---------------------------------------------------------------------------

def CorrectionGiven (options : List String) (correction : Int) : Prop :=
  match optionValue? 'c' options with
  | some text => Numeral correction text
  | none => correction = 0

section

variable {frame frame' corrected : UInt32} {options : List String}

theorem SpellsCorrection.given
    (h : SpellsCorrection frame (optionValue? 'c' options) corrected) :
    ∃ correction, CorrectionGiven options correction ∧ -2 ^ 31 ≤ correction ∧
      correction < 2 ^ 31 ∧ (corrected.toNat : Int) = max 0 (frame.toNat + correction) := by
  unfold CorrectionGiven
  cases hvalue : optionValue? 'c' options with
  | none =>
    rw [hvalue] at h
    obtain rfl := h
    exact ⟨0, rfl, by decide, by decide, by omega⟩
  | some text =>
    rw [hvalue] at h
    obtain ⟨i, hi, hcorrected⟩ := h
    exact ⟨i.toInt, int32?_eq_some_iff.1 hi, i.le_toInt, i.toInt_lt, hcorrected⟩

/-- Two words that are added always fit, so no correction is out of range for a frame. -/
theorem exists_spellsCorrection {value frameText : String} {n : Int} (h : Numeral n value)
    (hlow : -2 ^ 31 ≤ n) (hlt : n < 2 ^ 31) (hframe : SpellsNatural frameText frame) :
    ∃ corrected, SpellsCorrection frame (some value) corrected := by
  have hvalue : (Int32.ofInt n).toInt = n := Int32.toInt_ofInt_of_le hlow hlt
  refine ⟨Hit.correct frame (.ofInt n), .ofInt n, int32?_eq_some_iff.2 (hvalue.symm ▸ h), ?_⟩
  exact (correct_eq_iff hframe).1 rfl

theorem SpellsCorrection.move {frameText : String} {value : Option String}
    (h : SpellsCorrection frame value corrected) (hframe : SpellsNatural frameText frame') :
    ∃ corrected', SpellsCorrection frame' value corrected' := by
  cases value with
  | none => exact ⟨frame', rfl⟩
  | some text =>
    obtain ⟨i, hi, -⟩ := h
    exact ⟨Hit.correct frame' i, i, hi, (correct_eq_iff hframe).1 rfl⟩

end

-- ---------------------------------------------------------------------------
-- Options
-- ---------------------------------------------------------------------------

def optionText (letter : Char) (value : String) : String :=
  String.ofList ['-', letter, '='] ++ value

section

variable {letter : Char} {letters : List Char} {text old : String} {before after : List String}

theorem toList_optionText (letter : Char) (text : String) :
    (optionText letter text).toList = '-' :: letter :: '=' :: text.toList := by
  simp [optionText]

theorem splitOption?_optionText {n : Int} (hlower : letter.isLower = true)
    (h : Numeral n text) : splitOption? (optionText letter text) = some (letter, text) := by
  have hdecimal := numeral_iff.1 h
  rw [splitOption?_eq_some]
  refine ⟨toList_optionText letter text, hlower, hdecimal.ne_nil, fun hfeed => ?_⟩
  have hblank : isBlank '\n' = true := by decide
  cases (hdecimal.plain '\n' hfeed).1.symm.trans hblank

theorem OptionsWritten.splitOption?
    (h : OptionsWritten letters (before ++ optionText letter text :: after)) :
    splitOption? (optionText letter text) = some (letter, text) := by
  obtain ⟨letter', -, text', hsplit⟩ := h.each (optionText letter text) (by simp)
  have htext := (splitOption?_eq_some.1 hsplit).1
  rw [toList_optionText] at htext
  obtain ⟨rfl, rfl⟩ : letter = letter' ∧ text = text' := by
    simpa [String.toList_inj] using htext
  exact hsplit

theorem OptionsWritten.optionValue?_self
    (h : OptionsWritten letters (before ++ optionText letter text :: after)) :
    optionValue? letter (before ++ optionText letter text :: after) = some text := by
  rw [h.optionValue?_eq List.perm_middle, optionValue?, List.filterMap_cons_some h.splitOption?]
  exact List.lookup_cons_self

theorem OptionsWritten.put {n : Int}
    (h : OptionsWritten letters (before ++ optionText letter old :: after))
    (hn : Numeral n text) :
    OptionsWritten letters (before ++ optionText letter text :: after) := by
  have hold := h.splitOption?
  have hlower := (splitOption?_eq_some.1 hold).2.1
  have hrest := (optionsWritten_cons hold).1 (h.perm List.perm_middle)
  have hnew := (optionsWritten_cons (splitOption?_optionText hlower hn)).2 hrest
  exact hnew.perm List.perm_middle.symm

theorem OptionsWritten.optionValue?_put {n : Int}
    (h : OptionsWritten letters (before ++ optionText letter old :: after))
    (hn : Numeral n text) {other : Char} (hother : other ≠ letter) :
    optionValue? other (before ++ optionText letter text :: after) =
      optionValue? other (before ++ optionText letter old :: after) := by
  have hnew := h.put hn
  have hbeq : (other == letter) = false := beq_eq_false_iff_ne.2 hother
  rw [hnew.optionValue?_eq List.perm_middle, h.optionValue?_eq List.perm_middle, optionValue?,
    optionValue?, List.filterMap_cons_some hnew.splitOption?,
    List.filterMap_cons_some h.splitOption?, List.lookup_cons, List.lookup_cons, hbeq]

end

section

variable {text old : String} {before after : List String} {n : Int} {frame ms corrected : UInt32}
variable {hit : Hit} {symbol frameText : String}

theorem Hit.SpelledBy.putCorrection
    (h : hit.SpelledBy symbol frameText (before ++ optionText 'c' old :: after))
    (hn : Numeral n text) (hframe : SpellsNatural frameText frame)
    (hcorrected : SpellsCorrection frame (some text) corrected) :
    ({ hit with frame := corrected } : Hit).SpelledBy symbol frameText
      (before ++ optionText 'c' text :: after) := by
  have hwritten := h.written.put hn
  have hothers {other : Char} (hother : other ≠ 'c') := h.written.optionValue?_put hn hother
  exact
    { few := by simpa using h.few
      button := h.button
      written := hwritten
      duration := by rw [hothers (by decide)]; exact h.duration
      label := by rw [hothers (by decide)]; exact h.label
      frame := ⟨frame, hframe, by rw [hwritten.optionValue?_self]; exact hcorrected⟩
      start := by rw [hothers (by decide)]; exact h.start }

theorem Hit.SpelledBy.putDuration
    (h : hit.SpelledBy symbol frameText (before ++ optionText 'd' old :: after))
    (hn : Numeral n text) (hms : SpellsNatural text ms) :
    ({ hit with durationMs := ms } : Hit).SpelledBy symbol frameText
      (before ++ optionText 'd' text :: after) := by
  have hwritten := h.written.put hn
  have hothers {other : Char} (hother : other ≠ 'd') := h.written.optionValue?_put hn hother
  exact
    { few := by simpa using h.few
      button := h.button
      written := hwritten
      duration := by rw [hwritten.optionValue?_self]; exact hms
      label := by rw [hothers (by decide)]; exact h.label
      frame := by rw [hothers (by decide)]; exact h.frame
      start := by rw [hothers (by decide)]; exact h.start }

variable {press : Press} {groupsText : String}

theorem Press.SpelledBy.putDuration
    (h : press.SpelledBy groupsText (before ++ optionText 'd' old :: after))
    (hn : Numeral n text) (hms : SpellsNatural text ms) :
    ({ press with durationMs := ms } : Press).SpelledBy groupsText
      (before ++ optionText 'd' text :: after) := by
  have hwritten := h.written.put hn
  have hothers {other : Char} (hother : other ≠ 'd') := h.written.optionValue?_put hn hother
  exact
    { few := by simpa using h.few
      groups := h.groups
      written := hwritten
      duration := by rw [hwritten.optionValue?_self]; exact hms
      interval := by rw [hothers (by decide)]; exact h.interval
      start := by rw [hothers (by decide)]; exact h.start }

theorem Press.SpelledBy.putInterval
    (h : press.SpelledBy groupsText (before ++ optionText 'i' old :: after))
    (hn : Numeral n text) (hms : SpellsNatural text ms) :
    ({ press with intervalMs := ms } : Press).SpelledBy groupsText
      (before ++ optionText 'i' text :: after) := by
  have hwritten := h.written.put hn
  have hothers {other : Char} (hother : other ≠ 'i') := h.written.optionValue?_put hn hother
  exact
    { few := by simpa using h.few
      groups := h.groups
      written := hwritten
      duration := by rw [hothers (by decide)]; exact h.duration
      interval := by rw [hwritten.optionValue?_self]; exact hms
      start := by rw [hothers (by decide)]; exact h.start }

end

-- ---------------------------------------------------------------------------
-- Places of numbers
-- ---------------------------------------------------------------------------

/-- Where a command has a number, and what its other arguments are. -/
inductive NumberPlace
  | waitTime
  | frame (symbol : String) (options : List String)
  | correction (symbol frameText : String) (before after : List String)
  | hitDuration (symbol frameText : String) (before after : List String)
  | pressDuration (groupsText : String) (before after : List String)
  | pressInterval (groupsText : String) (before after : List String)

namespace NumberPlace

def keyword : NumberPlace → String
  | waitTime => "Wait"
  | frame .. | correction .. | hitDuration .. => "Hit"
  | pressDuration .. | pressInterval .. => "Press"

def reader : NumberPlace → Reader
  | waitTime => Wait.read
  | frame .. | correction .. | hitDuration .. => Hit.read
  | pressDuration .. | pressInterval .. => Press.read

def args : NumberPlace → String → List String
  | waitTime, text => [text]
  | frame symbol options, text => symbol :: text :: options
  | correction symbol frameText before after, text =>
    symbol :: frameText :: (before ++ optionText 'c' text :: after)
  | hitDuration symbol frameText before after, text =>
    symbol :: frameText :: (before ++ optionText 'd' text :: after)
  | pressDuration groupsText before after, text =>
    groupsText :: (before ++ optionText 'd' text :: after)
  | pressInterval groupsText before after, text =>
    groupsText :: (before ++ optionText 'i' text :: after)

def least : NumberPlace → Int
  | correction .. => -2 ^ 31
  | _ => 0

def Gives : NumberPlace → Int → Command → Prop
  | waitTime, n, .wait wait => (wait.durationMs.toNat : Int) = n
  | frame _ options, n, .hit hit => ∃ correction, CorrectionGiven options correction ∧
      (hit.frame.toNat : Int) = max 0 (n + correction)
  | correction _ frameText _ _, n, .hit hit => ∃ frame, Numeral frame frameText ∧
      (hit.frame.toNat : Int) = max 0 (frame + n)
  | hitDuration .., n, .hit hit => (hit.durationMs.toNat : Int) = n
  | pressDuration .., n, .press press => (press.durationMs.toNat : Int) = n
  | pressInterval .., n, .press press => (press.intervalMs.toNat : Int) = n
  | _, _, _ => False

/-- The other arguments are as they should be: with some text in the place, the line is well
formed and the timers are as it needs them. -/
def Completes (place : NumberPlace) (draft : Draft) : Prop :=
  ∃ text command, Spells (place.keyword :: place.args text) command ∧ draft.Permits command

variable {place : NumberPlace} {text old : String} {command : Command} {n : Int}

theorem reads (place : NumberPlace) :
    place.reader.Reads fun args => Spells (place.keyword :: args) := by
  cases place with
  | waitTime => exact wait_reads
  | frame | correction | hitDuration => exact hit_reads
  | pressDuration | pressInterval => exact press_reads

theorem spells_wait_iff : Spells ["Wait", text] command ↔
    ∃ wait, command = .wait wait ∧ SpellsNatural text wait.durationMs := by
  cases command <;> simp [Spells]

theorem gives_of_spells (h : Spells (place.keyword :: place.args text) command) :
    ∃ n, Numeral n text ∧ place.least ≤ n ∧ n < 2 ^ 31 ∧ place.Gives n command := by
  have hnatural {ms : UInt32} (hms : SpellsNatural text ms) (hleast : place.least = 0)
      (hgives : place.Gives ms.toNat command) :
      ∃ n, Numeral n text ∧ place.least ≤ n ∧ n < 2 ^ 31 ∧ place.Gives n command := by
    obtain ⟨hn, hlt⟩ := spellsNatural_iff.1 hms
    exact ⟨ms.toNat, hn, hleast.symm ▸ Int.natCast_nonneg _, hlt, hgives⟩
  cases place with
  | waitTime =>
    obtain ⟨wait, rfl, hs⟩ := spells_wait_iff.1 h
    exact hnatural hs rfl rfl
  | frame symbol options =>
    obtain ⟨hit, rfl, hs⟩ := spells_hit_iff.1 h
    obtain ⟨frame, hframe, hcorrected⟩ := hs.frame
    obtain ⟨correction, hgiven, -, -, hvalue⟩ := hcorrected.given
    exact hnatural hframe rfl ⟨correction, hgiven, hvalue⟩
  | correction symbol frameText before after =>
    obtain ⟨hit, rfl, hs⟩ := spells_hit_iff.1 h
    obtain ⟨frame, hframe, hcorrected⟩ := hs.frame
    obtain ⟨correction, hgiven, hlow, hlt, hvalue⟩ := hcorrected.given
    rw [CorrectionGiven, hs.written.optionValue?_self] at hgiven
    exact ⟨correction, hgiven, hlow, hlt, _, (spellsNatural_iff.1 hframe).1, hvalue⟩
  | hitDuration symbol frameText before after =>
    obtain ⟨hit, rfl, hs⟩ := spells_hit_iff.1 h
    have hduration := hs.duration
    rw [hs.written.optionValue?_self] at hduration
    exact hnatural hduration rfl rfl
  | pressDuration groupsText before after =>
    obtain ⟨press, rfl, hs⟩ := spells_press_iff.1 h
    have hduration := hs.duration
    rw [hs.written.optionValue?_self] at hduration
    exact hnatural hduration rfl rfl
  | pressInterval groupsText before after =>
    obtain ⟨press, rfl, hs⟩ := spells_press_iff.1 h
    have hinterval := hs.interval
    rw [hs.written.optionValue?_self] at hinterval
    exact hnatural hinterval rfl rfl

theorem exists_spells (h : Spells (place.keyword :: place.args old) command)
    (hn : Numeral n text) (hleast : place.least ≤ n) (hlt : n < 2 ^ 31) :
    ∃ command', Spells (place.keyword :: place.args text) command' ∧
      command'.source? = command.source? ∧ command'.start? = command.start? := by
  cases place with
  | waitTime =>
    obtain ⟨wait, rfl, -⟩ := spells_wait_iff.1 h
    obtain ⟨ms, hms, -⟩ := exists_spellsNatural hn hleast hlt
    exact ⟨.wait ⟨ms⟩, spells_wait_iff.2 ⟨_, rfl, hms⟩, rfl, rfl⟩
  | frame symbol options =>
    obtain ⟨hit, rfl, hs⟩ := spells_hit_iff.1 h
    obtain ⟨_, -, hcorrected⟩ := hs.frame
    obtain ⟨frame, hframe, -⟩ := exists_spellsNatural hn hleast hlt
    obtain ⟨corrected, hmoved⟩ := hcorrected.move hframe
    have hnew : ({ hit with frame := corrected } : Hit).SpelledBy symbol text options :=
      { hs with frame := ⟨frame, hframe, hmoved⟩ }
    exact ⟨_, spells_hit_iff.2 ⟨_, rfl, hnew⟩, rfl, rfl⟩
  | correction symbol frameText before after =>
    obtain ⟨hit, rfl, hs⟩ := spells_hit_iff.1 h
    obtain ⟨frame, hframe, -⟩ := hs.frame
    obtain ⟨corrected, hcorrected⟩ := exists_spellsCorrection hn hleast hlt hframe
    have hnew := hs.putCorrection hn hframe hcorrected
    exact ⟨_, spells_hit_iff.2 ⟨_, rfl, hnew⟩, rfl, rfl⟩
  | hitDuration symbol frameText before after =>
    obtain ⟨hit, rfl, hs⟩ := spells_hit_iff.1 h
    obtain ⟨ms, hms, -⟩ := exists_spellsNatural hn hleast hlt
    exact ⟨_, spells_hit_iff.2 ⟨_, rfl, hs.putDuration hn hms⟩, rfl, rfl⟩
  | pressDuration groupsText before after =>
    obtain ⟨press, rfl, hs⟩ := spells_press_iff.1 h
    obtain ⟨ms, hms, -⟩ := exists_spellsNatural hn hleast hlt
    exact ⟨_, spells_press_iff.2 ⟨_, rfl, hs.putDuration hn hms⟩, rfl, rfl⟩
  | pressInterval groupsText before after =>
    obtain ⟨press, rfl, hs⟩ := spells_press_iff.1 h
    obtain ⟨ms, hms, -⟩ := exists_spellsNatural hn hleast hlt
    exact ⟨_, spells_press_iff.2 ⟨_, rfl, hs.putInterval hn hms⟩, rfl, rfl⟩

theorem accepts_iff {draft : Draft} (h : place.Completes draft) (text : String) :
    (∃ command after, (place.reader (place.args text)).run draft = (.ok command, after)) ↔
      ∃ n, Numeral n text ∧ place.least ≤ n ∧ n < 2 ^ 31 := by
  constructor
  · rintro ⟨command, after, hrun⟩
    obtain ⟨hspells, -⟩ := (place.reads _ _ _ _).1 hrun
    obtain ⟨n, hn, hleast, hlt, -⟩ := gives_of_spells hspells
    exact ⟨n, hn, hleast, hlt⟩
  · rintro ⟨n, hn, hleast, hlt⟩
    obtain ⟨old, command, hspells, hpermits⟩ := h
    obtain ⟨command', hspells', hsource, hstart⟩ := exists_spells hspells hn hleast hlt
    have hpermits' : draft.Permits command' :=
      ⟨fun label hl => hpermits.source label (hsource ▸ hl),
        fun label hl => hpermits.fresh label (hstart ▸ hl)⟩
    exact ⟨command', _, (place.reads _ _ _ _).2 ⟨hspells', hpermits', rfl⟩⟩

theorem gives_of_run {draft after : Draft}
    (h : (place.reader (place.args text)).run draft = (.ok command, after))
    (hn : Numeral n text) : place.Gives n command := by
  obtain ⟨hspells, -⟩ := (place.reads _ _ _ _).1 h
  obtain ⟨m, hm, -, -, hgives⟩ := gives_of_spells hspells
  rwa [hn.unique hm]

end NumberPlace

/-- The frame of a hit is the sum of its frame and its correction as they are written, or 0 if
that is below 0. -/
def Hit.FrameWritten (hit : Hit) (frameText : String) (options : List String) : Prop :=
  ∃ frame correction, Numeral frame frameText ∧ CorrectionGiven options correction ∧
    (hit.frame.toNat : Int) = max 0 (frame + correction) ∧ max 0 (frame + correction) < 2 ^ 32

theorem Hit.SpelledBy.frameWritten {hit : Hit} {symbol frameText : String} {options : List String}
    (h : hit.SpelledBy symbol frameText options) : hit.FrameWritten frameText options := by
  obtain ⟨frame, hframe, hcorrected⟩ := h.frame
  obtain ⟨hn, hlt⟩ := spellsNatural_iff.1 hframe
  obtain ⟨correction, hgiven, -, hcorrection, hvalue⟩ := hcorrected.given
  exact ⟨frame.toNat, correction, hn, hgiven, hvalue, by omega⟩

theorem Hit.planned_of_run {args : List String} {draft after : Draft} {command : Command}
    (h : (Hit.read args).run draft = (.ok command, after)) :
    ∃ symbol frameText options hit, args = symbol :: frameText :: options ∧ command = .hit hit ∧
      hit.FrameWritten frameText options ∧ after.plan = draft.plan.push ⟨hit.label, hit.frame⟩ := by
  obtain ⟨hspells, -, rfl⟩ := (hit_reads _ _ _ _).1 h
  cases command with
  | hit hit =>
    obtain ⟨symbol, frameText, options, hargs, hs⟩ := hspells
    obtain rfl := (List.cons.inj hargs).2
    have hplan := Draft.plan_lay draft (.hit hit)
    exact ⟨symbol, frameText, options, hit, rfl, rfl, hs.frameWritten,
      by simpa [Command.planned?] using hplan⟩
  | press | wait | start | extension => simp [Spells] at hspells

/-- In a command whose other arguments are as they should be, a text is taken for the number if, and
only if, it is an optional sign and digits with a value that fits, and then the command has that
value. The frame of a hit that is read, and planned, is its frame and its correction together, not
below 0 and without any overflow. -/
theorem numbers_exact :
    (∀ (place : NumberPlace) (draft : Draft), place.Completes draft → ∀ text,
      ((∃ command after, (place.reader (place.args text)).run draft = (.ok command, after)) ↔
        ∃ n, Numeral n text ∧ place.least ≤ n ∧ n < 2 ^ 31) ∧
      ∀ command after n, (place.reader (place.args text)).run draft = (.ok command, after) →
        Numeral n text → place.Gives n command) ∧
    ∀ args draft command after, (Hit.read args).run draft = (.ok command, after) →
      ∃ symbol frameText options hit, args = symbol :: frameText :: options ∧
        command = .hit hit ∧ hit.FrameWritten frameText options ∧
        after.plan = draft.plan.push ⟨hit.label, hit.frame⟩ := by
  constructor
  · intro place draft h text
    refine ⟨place.accepts_iff h text, fun command after n hrun hn => ?_⟩
    exact place.gives_of_run hrun hn
  · intro args draft command after h
    exact Hit.planned_of_run h

/-- A correction that takes a hit below frame 0, and one that is out of range by one. -/
theorem numbers_exact_correction :
    let draft : Draft := Draft.setStarted {} 2
    let place : NumberPlace := .correction "A" "+0009" ["-l=2"] ["-s=7"]
    place.Completes draft ∧
    (∃ hit after, (Hit.read ["A", "+0009", "-l=2", "-c=-0020", "-s=7"]).run draft =
        (.ok (.hit hit), after) ∧ Numeral (-20) "-0020" ∧ place.Gives (-20) (.hit hit) ∧
      hit.FrameWritten "+0009" ["-l=2", "-c=-0020", "-s=7"] ∧ after.plan = #[⟨2, 0⟩]) ∧
    ¬ (∃ command after, (Hit.read ["A", "+0009", "-l=2", "-c=2147483648", "-s=7"]).run draft =
        (.ok command, after)) ∧
    ¬ ∃ n, Numeral n "2147483648" ∧ -2 ^ 31 ≤ n ∧ n < 2 ^ 31 := by
  intro draft place
  have hargs : place.args "-0020" = ["A", "+0009", "-l=2", "-c=-0020", "-s=7"] := rfl
  have hlarge : place.args "2147483648" = ["A", "+0009", "-l=2", "-c=2147483648", "-s=7"] := rfl
  have hrun : (Hit.read (place.args "-0020")).run draft =
      (.ok (.hit ⟨.a, 0, 2, 200, some 7⟩), (draft.setStarted 7).addHit 2 0) := by
    rw [hargs]
    rfl
  obtain ⟨hspells, hpermits, -⟩ := (hit_reads _ _ _ _).1 hrun
  have hcompletes : place.Completes draft := ⟨"-0020", _, hspells, hpermits⟩
  have hnumeral : Numeral (-20) "-0020" := numeral_iff.2 (integer?_eq_some_iff.1 rfl)
  have hvalue : Numeral 2147483648 "2147483648" := numeral_iff.2 (integer?_eq_some_iff.1 rfl)
  have hrefused : ¬ ∃ n, Numeral n "2147483648" ∧ -2 ^ 31 ≤ n ∧ n < 2 ^ 31 := by
    rintro ⟨n, hn, -, hlt⟩
    rw [hn.unique hvalue] at hlt
    exact absurd hlt (by decide)
  obtain ⟨symbol, frameText, options, hit, hline, hcommand, hframe, hplan⟩ :=
    numbers_exact.2 _ _ _ _ hrun
  rw [hargs] at hline
  obtain ⟨rfl, rfl, rfl⟩ : symbol = "A" ∧ frameText = "+0009" ∧
      options = ["-l=2", "-c=-0020", "-s=7"] := by simpa using hline.symm
  obtain rfl := Command.hit.inj hcommand
  have hgives := (numbers_exact.1 place draft hcompletes "-0020").2 _ _ _ hrun hnumeral
  have hnot := fun h => hrefused ((numbers_exact.1 place draft hcompletes "2147483648").1.1 h)
  rw [← hlarge, ← hargs]
  exact ⟨hcompletes, ⟨_, _, hrun, hnumeral, hgives, hframe, hplan⟩, hnot, hrefused⟩

end PadScript
