import PadScript.Proofs.Script.Layout

/-!
# Values as they are written

How the parts of a command may be put down: numbers in decimal, symbols joined by `+`,
groups by commas, options in any order. For each kind there is a relation between what is
meant and its text, the token that is left of the text, and the lemma that the token is read
as what was meant.
-/

namespace PadScript

-- ---------------------------------------------------------------------------
-- Numbers
-- ---------------------------------------------------------------------------

namespace Text

/-- A natural number in decimal, perhaps with zeros in front. -/
def Digits (n : Nat) (text : List Char) : Prop :=
  ∃ zeros, text = List.replicate zeros '0' ++ Nat.toDigits 10 n

inductive Decimal : Int → List Char → Prop
  | bare {n text} (digits : Digits n text) : Decimal (Int.ofNat n) text
  | plus {n text} (digits : Digits n text) : Decimal (Int.ofNat n) ('+' :: text)
  | minus {n text} (digits : Digits n text) : Decimal (-Int.ofNat n) ('-' :: text)

variable {n : Nat} {i : Int} {text : List Char}

theorem digits_toDigits (n : Nat) : Digits n (Nat.toDigits 10 n) := ⟨0, rfl⟩

theorem Digits.isDigit (h : Digits n text) {c : Char} (hc : c ∈ text) : c.isDigit = true := by
  obtain ⟨zeros, rfl⟩ := h
  rcases List.mem_append.1 hc with hc | hc
  · rw [List.eq_of_mem_replicate hc]
    rfl
  · exact Nat.isDigit_of_mem_toDigits (by decide) (by decide) hc

theorem Digits.ne_nil (h : Digits n text) : text ≠ [] := by
  obtain ⟨zeros, rfl⟩ := h
  simp [Nat.toDigits_ne_nil]

theorem ofDigitChars_zeros (zeros : Nat) :
    Nat.ofDigitChars 10 (List.replicate zeros '0') 0 = 0 := by
  induction zeros with
  | zero => rfl
  | succ zeros ih => exact ih

theorem Digits.natural? (h : Digits n text) : natural? text = some n := by
  have hall : text.all Char.isDigit = true := List.all_eq_true.2 fun c hc => h.isDigit hc
  have hvalue : Nat.ofDigitChars 10 text 0 = n := by
    obtain ⟨zeros, rfl⟩ := h
    rw [Nat.ofDigitChars_append, ofDigitChars_zeros, Nat.ofDigitChars_ten_toDigits]
  rw [Text.natural?, if_pos ⟨h.ne_nil, hall⟩]
  exact congrArg some hvalue

theorem Decimal.integer? (h : Decimal i text) : integer? text = some i := by
  cases h with
  | bare digits =>
    unfold Text.integer?
    split
    · cases digits.isDigit List.mem_cons_self
    · cases digits.isDigit List.mem_cons_self
    · rw [digits.natural?]
      rfl
  | plus digits =>
    rw [Text.integer?, digits.natural?]
    rfl
  | minus digits =>
    rw [Text.integer?, digits.natural?]
    rfl

theorem Decimal.int32? {i : Int32} (h : Decimal i.toInt text) :
    int32? (String.ofList text) = some i := by
  have hmin : Int32.minValue.toInt ≤ i.toInt := i.minValue_le_toInt
  have hmax : i.toInt ≤ Int32.maxValue.toInt := i.toInt_le
  unfold Text.int32?
  rw [String.toList_ofList, h.integer?, Option.bind_eq_bind, Option.bind_some,
    if_pos ⟨hmin, hmax⟩, Int32.ofInt_toInt]

theorem not_isBlank_of_visible {c : Char} (hlow : 33 ≤ c.toNat) (hhigh : c.toNat ≤ 126) :
    isBlank c = false := by
  rw [isBlank, ← Bool.not_eq_true, Ranges.covers_iff _ (by decide)]
  rintro ⟨range, hrange, hfirst, hlast⟩
  simp only [blankRanges, List.mem_cons, List.not_mem_nil, or_false] at hrange
  rcases hrange with rfl | rfl | rfl | rfl | rfl | rfl | rfl | rfl | rfl | rfl
  all_goals simp only at hfirst hlast; omega

theorem not_isBlank_of_isDigit {c : Char} (h : c.isDigit = true) : isBlank c = false := by
  obtain ⟨hlow, hhigh⟩ := Bool.and_eq_true_iff.1 h
  have hlow : 48 ≤ c.toNat := UInt32.le_iff_toNat_le.1 (of_decide_eq_true hlow)
  have hhigh : c.toNat ≤ 57 := UInt32.le_iff_toNat_le.1 (of_decide_eq_true hhigh)
  exact not_isBlank_of_visible (by omega) (by omega)

theorem not_isBlank_of_isLower {c : Char} (h : c.isLower = true) : isBlank c = false := by
  obtain ⟨hlow, hhigh⟩ := Bool.and_eq_true_iff.1 h
  have hlow : 97 ≤ c.toNat := UInt32.le_iff_toNat_le.1 (of_decide_eq_true hlow)
  have hhigh : c.toNat ≤ 122 := UInt32.le_iff_toNat_le.1 (of_decide_eq_true hhigh)
  exact not_isBlank_of_visible (by omega) (by omega)

theorem exists_decimal (i : Int) : ∃ text, Decimal i text := by
  cases i with
  | ofNat n => exact ⟨_, .bare (digits_toDigits n)⟩
  | negSucc n => exact ⟨_, .minus (digits_toDigits (n + 1))⟩

theorem Decimal.ne_nil (h : Decimal i text) : text ≠ [] := by
  cases h with
  | bare digits => exact digits.ne_nil
  | plus | minus => exact List.cons_ne_nil _ _

theorem Digits.plain (h : Digits n text) : Plain text := by
  intro c hc
  have hdigit := h.isDigit hc
  refine ⟨not_isBlank_of_isDigit hdigit, ?_⟩
  rintro rfl
  cases hdigit

theorem Decimal.plain (h : Decimal i text) : Plain text := by
  cases h with
  | bare digits => exact digits.plain
  | plus digits | minus digits => exact plain_cons (by decide) (by decide) digits.plain

end Text

-- ---------------------------------------------------------------------------
-- Symbols, chords and groups
-- ---------------------------------------------------------------------------

structure Symbol where
  name : String
  button : Buttons
  known : (name, button) ∈ Buttons.symbols

structure Chord where
  symbols : List Symbol
  nonempty : symbols ≠ []

namespace Symbol

theorem ofSymbol?_name (symbol : Symbol) :
    Buttons.ofSymbol? symbol.name = some symbol.button := by
  have hall : ∀ entry ∈ Buttons.symbols, Buttons.ofSymbol? entry.1 = some entry.2 := by decide
  exact hall _ symbol.known

theorem plain_name (symbol : Symbol) : Text.Plain symbol.name.toList := by
  have hall : ∀ entry ∈ Buttons.symbols, Text.Plain entry.1.toList := by decide
  exact hall _ symbol.known

theorem plus_notMem_name (symbol : Symbol) : '+' ∉ symbol.name.toList := by
  have hall : ∀ entry ∈ Buttons.symbols, '+' ∉ entry.1.toList := by decide
  exact hall _ symbol.known

theorem name_ne_nil (symbol : Symbol) : symbol.name.toList ≠ [] := by
  have hall : ∀ entry ∈ Buttons.symbols, entry.1.toList ≠ [] := by decide
  exact hall _ symbol.known

end Symbol

theorem mem_intercalate {separator c : Char} {pieces : List (List Char)}
    (h : c ∈ [separator].intercalate pieces) : c = separator ∨ ∃ piece ∈ pieces, c ∈ piece := by
  induction pieces with
  | nil => simp at h
  | cons piece pieces ih =>
    cases pieces with
    | nil =>
      rw [List.intercalate_singleton] at h
      exact .inr ⟨piece, List.mem_cons_self, h⟩
    | cons second pieces =>
      rw [List.intercalate_cons_cons, List.append_assoc, List.mem_append, List.mem_append,
        List.mem_singleton] at h
      rcases h with h | h | h
      · exact .inr ⟨piece, List.mem_cons_self, h⟩
      · exact .inl h
      · obtain h | ⟨other, hother, h⟩ := ih h
        · exact .inl h
        · exact .inr ⟨other, List.mem_cons_of_mem _ hother, h⟩

namespace Chord

def text (chord : Chord) : List Char :=
  ['+'].intercalate (chord.symbols.map fun symbol => symbol.name.toList)

def held (chord : Chord) : Buttons :=
  (chord.symbols.map Symbol.button).foldl Buttons.union Buttons.released

theorem ofChord?_text (chord : Chord) :
    Buttons.ofChord? (String.ofList chord.text) = some chord.held := by
  have hsplit : chord.text.splitOnP (· == '+') =
      chord.symbols.map fun symbol => symbol.name.toList := by
    rw [← List.splitOn_eq_splitOnP, text, List.splitOn_intercalate]
    · intro name hname hplus
      obtain ⟨symbol, -, rfl⟩ := List.mem_map.1 hname
      exact symbol.plus_notMem_name hplus
    · simpa using chord.nonempty
  have hread : (chord.symbols.map fun symbol => symbol.name.toList).mapM
      (fun piece => Buttons.ofSymbol? (String.ofList piece)) =
        some (chord.symbols.map Symbol.button) := by
    rw [mapM_eq_some, List.forall₂_map_left_iff, List.forall₂_map_right_iff,
      List.forall₂_same]
    intro symbol _
    rw [String.ofList_toList, symbol.ofSymbol?_name]
  rw [Buttons.ofChord?, String.toList_ofList, hsplit, hread]
  rfl

theorem text_ne_nil (chord : Chord) : chord.text ≠ [] := by
  obtain ⟨first, rest, hsymbols⟩ := List.exists_cons_of_ne_nil chord.nonempty
  rw [text, hsymbols, List.map_cons]
  cases rest with
  | nil => simpa using first.name_ne_nil
  | cons second rest => simp

theorem plain_text (chord : Chord) : Text.Plain chord.text := by
  intro c hc
  rcases mem_intercalate hc with rfl | ⟨name, hname, hc⟩
  · decide
  · obtain ⟨symbol, -, rfl⟩ := List.mem_map.1 hname
    exact symbol.plain_name c hc

end Chord

inductive GroupsWritten : List Chord → List Char → Prop
  | last (chord : Chord) : GroupsWritten [chord] chord.text
  | comma {groups text} (chord : Chord) (rest : GroupsWritten groups text) :
      GroupsWritten (chord :: groups) (chord.text ++ ',' :: text)
  | commaSpace {groups text} (chord : Chord) (rest : GroupsWritten groups text) :
      GroupsWritten (chord :: groups) (chord.text ++ ',' :: ' ' :: text)

/-- What is left of them in the token. -/
def groupsToken (groups : List Chord) : List Char := [','].intercalate (groups.map Chord.text)

theorem GroupsWritten.ne_nil {groups : List Chord} {text : List Char}
    (h : GroupsWritten groups text) : groups ≠ [] := by
  cases h with
  | last | comma | commaSpace => exact List.cons_ne_nil _ _

theorem exists_groupsWritten {groups : List Chord} (h : groups ≠ []) :
    ∃ text, GroupsWritten groups text := by
  induction groups with
  | nil => exact absurd rfl h
  | cons chord groups ih =>
    cases groups with
    | nil => exact ⟨_, .last chord⟩
    | cons second groups =>
      obtain ⟨text, hrest⟩ := ih (List.cons_ne_nil _ _)
      exact ⟨_, .comma chord hrest⟩

theorem groupsToken_cons (chord : Chord) {groups : List Chord} (h : groups ≠ []) :
    groupsToken (chord :: groups) = chord.text ++ ',' :: groupsToken groups := by
  rw [groupsToken, List.map_cons, List.intercalate_cons_of_ne_nil (by simpa using h),
    List.append_assoc]
  rfl

theorem GroupsWritten.piece {groups : List Chord} {text : List Char}
    (h : GroupsWritten groups text) : Piece text (groupsToken groups) := by
  induction h with
  | last chord =>
    rw [groupsToken, List.map_singleton, List.intercalate_singleton]
    exact .of_plain chord.plain_text chord.text_ne_nil
  | comma chord hrest ih =>
    rw [groupsToken_cons chord hrest.ne_nil]
    exact ih.comma chord.plain_text
  | commaSpace chord hrest ih =>
    rw [groupsToken_cons chord hrest.ne_nil]
    exact ih.commaSpace chord.plain_text

theorem spellsGroups_groupsToken {groups : List Chord} (h : groups ≠ []) :
    SpellsGroups (String.ofList (groupsToken groups)) (groups.map Chord.held) := by
  rw [SpellsGroups, String.toList_ofList, ← List.splitOn_eq_splitOnP, groupsToken,
    List.splitOn_intercalate]
  · rw [List.forall₂_map_left_iff, List.forall₂_map_right_iff, List.forall₂_same]
    intro chord _
    exact chord.ofChord?_text
  · intro text htext hcomma
    obtain ⟨chord, -, rfl⟩ := List.mem_map.1 htext
    exact chord.plain_text.comma_notMem hcomma
  · simpa using h

-- ---------------------------------------------------------------------------
-- Options
-- ---------------------------------------------------------------------------

inductive Value
  | number (n : Int)
  | label (label : Label)

namespace Value

def WrittenAs : Value → List Char → Prop
  | number n, text => Text.Decimal n text
  | label l, text => text = [Nat.digitChar l.val]

def SpelledBy (value : Value) (text : String) : Prop := value.WrittenAs text.toList

variable {value : Value} {text : List Char}

theorem exists_writtenAs (value : Value) : ∃ text, value.WrittenAs text := by
  cases value with
  | number n => exact Text.exists_decimal n
  | label l => exact ⟨_, rfl⟩

theorem WrittenAs.plain (h : value.WrittenAs text) : Text.Plain text := by
  cases value with
  | number n => exact Text.Decimal.plain h
  | label l =>
    have hall : ∀ l : Label, Text.Plain [Nat.digitChar l.val] := by decide
    obtain rfl : text = [Nat.digitChar l.val] := h
    exact hall l

theorem WrittenAs.ne_nil (h : value.WrittenAs text) : text ≠ [] := by
  cases value with
  | number n => exact Text.Decimal.ne_nil h
  | label l =>
    obtain rfl : text = [Nat.digitChar l.val] := h
    exact List.cons_ne_nil _ _

end Value

def setting (letter : Char) (value : Option Value) : List (Char × Value) :=
  value.toList.map fun value => (letter, value)

theorem lookup_setting (letter other : Char) (value : Option Value) :
    (setting letter value).lookup other = if other == letter then value else none := by
  cases value with
  | none => simp [setting]
  | some value => cases h : other == letter <;> simp [setting, List.lookup_cons, h]

theorem letters_setting (letter : Char) (value : Option Value) :
    ((setting letter value).map Prod.fst).Sublist [letter] := by
  cases value with
  | none => exact List.nil_sublist _
  | some value => exact List.Sublist.refl _

def SettingWritten (option : Char × Value) (text : List Char) : Prop :=
  ∃ value, option.2.WrittenAs value ∧ text = '-' :: option.1 :: '=' :: value

def SettingsWritten (settings : List (Char × Value)) (texts : List (List Char)) : Prop :=
  ∃ order, order.Perm settings ∧ List.Forall₂ SettingWritten order texts

def Gives (option : Char × Value) (pair : Char × String) : Prop :=
  pair.1 = option.1 ∧ option.2.SpelledBy pair.2

section

variable {option : Char × Value} {text : List Char} {order settings : List (Char × Value)}
  {texts : List (List Char)} {pairs : List (Char × String)}

theorem SettingWritten.splitOption? (h : SettingWritten option text)
    (hlower : option.1.isLower = true) :
    ∃ pair, splitOption? (String.ofList text) = some pair ∧ Gives option pair := by
  obtain ⟨value, hvalue, rfl⟩ := h
  refine ⟨(option.1, String.ofList value), ?_, rfl, by simpa [Value.SpelledBy] using hvalue⟩
  rw [splitOption?_eq_some, String.toList_ofList, String.toList_ofList]
  refine ⟨rfl, hlower, hvalue.ne_nil, fun hbreak => ?_⟩
  cases hvalue.plain.solid _ hbreak

theorem SettingWritten.piece (h : SettingWritten option text)
    (hlower : option.1.isLower = true) : Piece text text := by
  obtain ⟨value, hvalue, rfl⟩ := h
  have hcomma : option.1 ≠ ',' := by
    intro hcomma
    rw [hcomma] at hlower
    cases hlower
  refine .of_plain ?_ (List.cons_ne_nil _ _)
  apply Text.plain_cons (by decide) (by decide)
  apply Text.plain_cons (Text.not_isBlank_of_isLower hlower) hcomma
  exact Text.plain_cons (by decide) (by decide) hvalue.plain

theorem exists_option_of_mem (h : List.Forall₂ SettingWritten order texts) (ht : text ∈ texts) :
    ∃ option ∈ order, SettingWritten option text := by
  induction h with
  | nil => cases ht
  | cons hoption _ ih =>
    rcases List.mem_cons.1 ht with rfl | ht
    · exact ⟨_, List.mem_cons_self, hoption⟩
    · obtain ⟨option, ho, hwritten⟩ := ih ht
      exact ⟨option, List.mem_cons_of_mem _ ho, hwritten⟩

theorem gives_of_written (h : List.Forall₂ SettingWritten order texts)
    (hlower : ∀ option ∈ order, option.1.isLower = true) :
    List.Forall₂ Gives order ((texts.map String.ofList).filterMap PadScript.splitOption?) := by
  induction h with
  | nil => exact .nil
  | cons hoption _ ih =>
    obtain ⟨hfirst, hrest⟩ := List.forall_mem_cons.1 hlower
    obtain ⟨pair, hsplit, hgives⟩ := hoption.splitOption? hfirst
    rw [List.map_cons, List.filterMap_cons_some hsplit]
    exact .cons hgives (ih hrest)

theorem letters_of_gives (h : List.Forall₂ Gives order pairs) :
    pairs.map Prod.fst = order.map Prod.fst := by
  induction h with
  | nil => rfl
  | cons hgives _ ih => rw [List.map_cons, List.map_cons, hgives.1, ih]

theorem lookup_of_gives (h : List.Forall₂ Gives order pairs) (letter : Char) :
    Option.Rel Value.SpelledBy (order.lookup letter) (pairs.lookup letter) := by
  induction h with
  | nil => exact .none
  | cons hgives _ ih =>
    rw [List.lookup_cons, List.lookup_cons, hgives.1]
    split
    · exact .some hgives.2
    · exact ih

theorem SettingsWritten.reads {letters : List Char} (h : SettingsWritten settings texts)
    (hsub : (settings.map Prod.fst).Sublist letters) (hnodup : letters.Nodup)
    (hlower : ∀ letter ∈ letters, letter.isLower = true) :
    texts.length ≤ letters.length ∧ OptionsWritten letters (texts.map String.ofList) ∧
      ∀ letter, Option.Rel Value.SpelledBy (settings.lookup letter)
        (optionValue? letter (texts.map String.ofList)) := by
  obtain ⟨order, hperm, hwritten⟩ := h
  have hmem {option} (hoption : option ∈ order) : option.1 ∈ letters :=
    hsub.subset (List.mem_map_of_mem (hperm.mem_iff.1 hoption))
  have hgives := gives_of_written hwritten fun option ho => hlower _ (hmem ho)
  have hletters := hperm.map Prod.fst
  have honce : (order.map Prod.fst).Nodup := hletters.nodup_iff.2 (hsub.nodup hnodup)
  refine ⟨?_, ⟨?_, ?_⟩, ?_⟩
  · rw [← hwritten.length_eq, hperm.length_eq, ← List.length_map Prod.fst]
    exact hsub.length_le
  · intro text htext
    obtain ⟨written, hmem', rfl⟩ := List.mem_map.1 htext
    obtain ⟨option, ho, hoption⟩ := exists_option_of_mem hwritten hmem'
    obtain ⟨pair, hsplit, hletter, -⟩ := hoption.splitOption? (hlower _ (hmem ho))
    exact ⟨pair.1, hletter ▸ hmem ho, pair.2, hsplit⟩
  · rw [letters_of_gives hgives]
    exact honce
  · intro letter
    rw [← lookup_perm hperm honce]
    exact lookup_of_gives hgives letter

theorem exists_settingsWritten (settings : List (Char × Value)) :
    ∃ texts, SettingsWritten settings texts := by
  have hwritten : ∃ texts, List.Forall₂ SettingWritten settings texts := by
    induction settings with
    | nil => exact ⟨[], .nil⟩
    | cons option settings ih =>
      obtain ⟨texts, h⟩ := ih
      obtain ⟨value, hvalue⟩ := option.2.exists_writtenAs
      exact ⟨_, .cons ⟨value, hvalue, rfl⟩ h⟩
  obtain ⟨texts, h⟩ := hwritten
  exact ⟨texts, settings, .refl _, h⟩

theorem SettingsWritten.pieces (h : SettingsWritten settings texts)
    (hlower : ∀ letter ∈ settings.map Prod.fst, letter.isLower = true) :
    List.Forall₂ Piece texts texts := by
  obtain ⟨order, hperm, hwritten⟩ := h
  rw [List.forall₂_same]
  intro text htext
  obtain ⟨option, ho, hoption⟩ := exists_option_of_mem hwritten htext
  exact hoption.piece (hlower _ (List.mem_map_of_mem (hperm.mem_iff.1 ho)))

end

end PadScript
