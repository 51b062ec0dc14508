import PadScript.Proofs.Script.Values

/-!
# Commands written down and read back

A `Phrase` is what one may say with a built-in command, apart from any text, and
`Phrase.Written` says which pieces it may be put down with. Every phrase can be written, and
however it is written and laid out, its line is read as the command that it means and as no
other (`written_reads_back`).
-/

namespace PadScript

-- ---------------------------------------------------------------------------
-- Phrases
-- ---------------------------------------------------------------------------

structure Magnitude where
  value : Nat
  small : value < 2147483648

namespace Magnitude

def word (magnitude : Magnitude) : UInt32 := UInt32.ofNat magnitude.value

theorem toNat_word (magnitude : Magnitude) : magnitude.word.toNat = magnitude.value :=
  UInt32.toNat_ofNat_of_lt' (Nat.lt_trans magnitude.small (by decide))

theorem spells {magnitude : Magnitude} {text : List Char}
    (h : Text.Decimal magnitude.value text) :
    SpellsNatural (String.ofList text) magnitude.word := by
  have hsmall := magnitude.small
  have hvalue : (Int32.ofInt magnitude.value).toInt = magnitude.value :=
    Int32.toInt_ofInt_of_le (by omega) (by omega)
  rw [← hvalue] at h
  exact ⟨_, h.int32?, by rw [magnitude.toNat_word, hvalue]⟩

end Magnitude

/-- What a built-in command says; `none` where it says nothing. -/
inductive Phrase
  | press (groups : List Chord) (nonempty : groups ≠ []) (duration interval : Option Magnitude)
      (start : Option Label)
  | wait (duration : Magnitude)
  | start (label : Option Label)
  | hit (symbol : Symbol) (frame : Magnitude) (source : Option Label)
      (duration : Option Magnitude) (start : Option Label) (correction : Option Int32)

namespace Phrase

def keyword : Phrase → String
  | press .. => "Press"
  | wait _ => "Wait"
  | start _ => "Start"
  | hit .. => "Hit"

def command : Phrase → Command
  | press groups _ duration interval timer =>
    .press
      { groups := groups.map Chord.held
        durationMs := (duration.map Magnitude.word).getD 200
        intervalMs := (interval.map Magnitude.word).getD 0
        start := timer }
  | wait duration => .wait { durationMs := duration.word }
  | start label => .start { start := label }
  | hit symbol frame source duration timer correction =>
    .hit
      { button := symbol.button
        frame := UInt32.ofNat
          (max 0 ((frame.value : Int) + (correction.map Int32.toInt).getD 0)).toNat
        label := source.getD ⟨0, by decide⟩
        durationMs := (duration.map Magnitude.word).getD 200
        start := timer }

def letters : Phrase → List Char
  | press .. => ['d', 'i', 's']
  | wait _ => []
  | start _ => ['s']
  | hit .. => ['l', 'd', 's', 'c']

def settings : Phrase → List (Char × Value)
  | press _ _ duration interval timer =>
    setting 'd' (duration.map fun n => .number n.value) ++
      (setting 'i' (interval.map fun n => .number n.value) ++ setting 's' (timer.map .label))
  | wait _ => []
  | start label => setting 's' (label.map .label)
  | hit _ _ source duration timer correction =>
    setting 'l' (source.map .label) ++
      (setting 'd' (duration.map fun n => .number n.value) ++
        (setting 's' (timer.map .label) ++
          setting 'c' (correction.map fun i => .number i.toInt)))

inductive Body : Phrase → List (List Char) → Prop
  | press {groups nonempty duration interval start text} (h : GroupsWritten groups text) :
      Body (press groups nonempty duration interval start) [text]
  | wait {duration text} (h : Text.Decimal duration.value text) : Body (wait duration) [text]
  | start {label} : Body (start label) []
  | hit {symbol frame source duration start correction text}
      (h : Text.Decimal frame.value text) :
      Body (hit symbol frame source duration start correction) [symbol.name.toList, text]

def Written (phrase : Phrase) (pieces : List (List Char)) : Prop :=
  ∃ body options, phrase.Body body ∧ SettingsWritten phrase.settings options ∧
    pieces = phrase.keyword.toList :: (body ++ options)

theorem letters_settings (phrase : Phrase) :
    (phrase.settings.map Prod.fst).Sublist phrase.letters := by
  cases phrase with
  | press groups nonempty duration interval start =>
    simp only [settings, List.map_append]
    exact (letters_setting 'd' _).append ((letters_setting 'i' _).append (letters_setting 's' _))
  | wait duration => exact .refl _
  | start label => exact letters_setting 's' _
  | hit symbol frame source duration start correction =>
    simp only [settings, List.map_append]
    exact (letters_setting 'l' _).append ((letters_setting 'd' _).append
      ((letters_setting 's' _).append (letters_setting 'c' _)))

theorem nodup_letters (phrase : Phrase) : phrase.letters.Nodup := by
  cases phrase <;> simp [letters]

theorem isLower_letters (phrase : Phrase) : ∀ letter ∈ phrase.letters, letter.isLower = true := by
  have hall : phrase.letters.all Char.isLower = true := by
    cases phrase <;> rfl
  exact List.all_eq_true.1 hall

end Phrase

theorem ofDigit?_of_spelledBy {label : Label} {text : String}
    (h : (Value.label label).SpelledBy text) : Label.ofDigit? text = some label := by
  have hall : ∀ label : Label,
      Label.ofDigit? (String.ofList [Nat.digitChar label.val]) = some label := by decide
  have htext : text = String.ofList [Nat.digitChar label.val] := by
    rw [← (show text.toList = [Nat.digitChar label.val] from h), String.ofList_toList]
  rw [htext, hall]

theorem spellsDuration_of_rel {duration : Option Magnitude} {text : Option String}
    (default : UInt32)
    (h : Option.Rel Value.SpelledBy (duration.map fun n => .number n.value) text) :
    SpellsDuration default text ((duration.map Magnitude.word).getD default) := by
  cases duration with
  | none =>
    cases h
    rfl
  | some n =>
    cases h with
    | some h =>
      have hspells := Magnitude.spells h
      rwa [String.ofList_toList] at hspells

theorem spellsStart_of_rel {start : Option Label} {text : Option String}
    (h : Option.Rel Value.SpelledBy (start.map .label) text) : SpellsStart text start := by
  cases start with
  | none =>
    cases h
    rfl
  | some label =>
    cases h with
    | some h => exact ⟨label, ofDigit?_of_spelledBy h, rfl⟩

theorem spellsSource_of_rel {source : Option Label} {text : Option String}
    (h : Option.Rel Value.SpelledBy (source.map .label) text) :
    SpellsSource text (source.getD ⟨0, by decide⟩) := by
  cases source with
  | none =>
    cases h
    rfl
  | some label =>
    cases h with
    | some h => exact ofDigit?_of_spelledBy h

theorem spellsCorrection_of_rel (frame : Magnitude) {correction : Option Int32}
    {text : Option String}
    (h : Option.Rel Value.SpelledBy (correction.map fun i => .number i.toInt) text) :
    SpellsCorrection frame.word text (UInt32.ofNat
      (max 0 ((frame.value : Int) + (correction.map Int32.toInt).getD 0)).toNat) := by
  have hsmall := frame.small
  cases correction with
  | none =>
    cases h
    have hvalue : (max 0 ((frame.value : Int) + 0)).toNat = frame.value := by omega
    exact congrArg UInt32.ofNat hvalue
  | some i =>
    cases h with
    | some h =>
      have hread := Text.Decimal.int32? h
      rw [String.ofList_toList] at hread
      have hi := i.toInt_lt
      have hlt : (max 0 ((frame.value : Int) + i.toInt)).toNat < UInt32.size := by
        change _ < 4294967296
        omega
      refine ⟨i, hread, ?_⟩
      rw [frame.toNat_word, Option.map_some, Option.getD_some, UInt32.toNat_ofNat_of_lt' hlt]
      exact Int.toNat_of_nonneg (Int.le_max_left _ _)

namespace Phrase

theorem keyword_mem (phrase : Phrase) : phrase.keyword ∈ reservedKeywords := by
  cases phrase <;> simp [keyword, reservedKeywords]

theorem piece_keyword (phrase : Phrase) : Piece phrase.keyword.toList phrase.keyword.toList := by
  have hall : ∀ keyword ∈ reservedKeywords, Text.Plain keyword.toList ∧ keyword.toList ≠ [] := by
    decide
  obtain ⟨hplain, hne⟩ := hall _ phrase.keyword_mem
  exact .of_plain hplain hne

theorem Written.spells {phrase : Phrase} {pieces : List (List Char)} (h : phrase.Written pieces) :
    ∃ args, List.Forall₂ Piece pieces (phrase.keyword.toList :: args) ∧
      Spells (phrase.keyword :: args.map String.ofList) phrase.command := by
  obtain ⟨body, options, hbody, hoptions, rfl⟩ := h
  have hpieces := hoptions.pieces fun letter hl =>
    phrase.isLower_letters letter (phrase.letters_settings.subset hl)
  obtain ⟨hfew, hwritten, hgiven⟩ :=
    hoptions.reads phrase.letters_settings phrase.nodup_letters phrase.isLower_letters
  rw [← List.length_map String.ofList] at hfew
  have hgives (letter : Char) {value : Option Value}
      (hvalue : phrase.settings.lookup letter = value) :
      Option.Rel Value.SpelledBy value (optionValue? letter (options.map String.ofList)) :=
    hvalue ▸ hgiven letter
  have hkeyword := phrase.piece_keyword
  cases hbody with
  | @press groups nonempty duration interval start text h =>
    refine ⟨groupsToken groups :: options, .cons hkeyword (.cons h.piece hpieces), _, _, rfl,
      hfew, spellsGroups_groupsToken nonempty, hwritten, ?_, ?_, ?_⟩
    · exact spellsDuration_of_rel 200 (hgives 'd' (by
        simp [settings, List.lookup_append, lookup_setting]))
    · exact spellsDuration_of_rel 0 (hgives 'i' (by
        simp [settings, List.lookup_append, lookup_setting]))
    · exact spellsStart_of_rel (hgives 's' (by
        simp [settings, List.lookup_append, lookup_setting]))
  | @wait duration text h =>
    obtain rfl : options = [] := by simpa [letters] using hfew
    have hpiece := Piece.of_plain h.plain h.ne_nil
    exact ⟨[text], .cons hkeyword (.cons hpiece .nil), _, rfl, Magnitude.spells h⟩
  | @start label =>
    refine ⟨options, .cons hkeyword hpieces, _, rfl, hfew, hwritten, ?_⟩
    exact spellsStart_of_rel (hgives 's' (by simp [settings, lookup_setting]))
  | @hit symbol frame source duration start correction text h =>
    have hsymbol := Piece.of_plain symbol.plain_name symbol.name_ne_nil
    have hframe := Piece.of_plain h.plain h.ne_nil
    refine ⟨symbol.name.toList :: text :: options,
      .cons hkeyword (.cons hsymbol (.cons hframe hpieces)), _, _, _, rfl, hfew, ?_, hwritten,
      ?_, ?_, ⟨frame.word, Magnitude.spells h, ?_⟩, ?_⟩
    · rw [String.ofList_toList]
      exact symbol.ofSymbol?_name
    · exact spellsDuration_of_rel 200 (hgives 'd' (by
        simp [settings, List.lookup_append, lookup_setting]))
    · exact spellsSource_of_rel (hgives 'l' (by
        simp [settings, List.lookup_append, lookup_setting]))
    · exact spellsCorrection_of_rel frame (hgives 'c' (by
        simp [settings, List.lookup_append, lookup_setting]))
    · exact spellsStart_of_rel (hgives 's' (by
        simp [settings, List.lookup_append, lookup_setting]))

theorem exists_written (phrase : Phrase) : ∃ pieces, phrase.Written pieces := by
  have hbody : ∃ body, phrase.Body body := by
    cases phrase with
    | press groups nonempty duration interval start =>
      obtain ⟨text, h⟩ := exists_groupsWritten nonempty
      exact ⟨_, .press h⟩
    | wait duration =>
      obtain ⟨text, h⟩ := Text.exists_decimal duration.value
      exact ⟨_, .wait h⟩
    | start label => exact ⟨_, .start⟩
    | hit symbol frame source duration start correction =>
      obtain ⟨text, h⟩ := Text.exists_decimal frame.value
      exact ⟨_, .hit h⟩
  obtain ⟨body, hbody⟩ := hbody
  obtain ⟨options, hoptions⟩ := exists_settingsWritten phrase.settings
  exact ⟨_, body, options, hbody, hoptions, rfl⟩

theorem head?_keyword (phrase : Phrase) : phrase.keyword.toList.head? ≠ some '#' := by
  have hall : ∀ keyword ∈ reservedKeywords, keyword.toList.head? ≠ some '#' := by decide
  exact hall _ phrase.keyword_mem

/-- Every phrase can be written on a line, and each such line is read as the command that it
means, where the timers are as that command needs them, and as nothing else. -/
theorem written_reads_back (phrase : Phrase) :
    (∃ pieces line, phrase.Written pieces ∧ LaidOut pieces (String.toList line)) ∧
    ∀ pieces line, phrase.Written pieces → LaidOut pieces (String.toList line) →
      ∃ args reader, tokenize line = some (phrase.keyword :: args) ∧
        Registry.builtin.get? phrase.keyword = some reader ∧
        ∀ draft command after, (reader args).run draft = (.ok command, after) ↔
          command = phrase.command ∧ draft.Permits phrase.command ∧
            after = draft.lay phrase.command := by
  constructor
  · obtain ⟨pieces, body, options, hbody, hoptions, hpieces⟩ := phrase.exists_written
    obtain ⟨line, hline⟩ := exists_laidOut phrase.keyword.toList (body ++ options)
    refine ⟨pieces, String.ofList line, ⟨body, options, hbody, hoptions, hpieces⟩, ?_⟩
    rwa [String.toList_ofList, hpieces]
  · intro pieces line hwritten hline
    obtain ⟨args, hpieces, hspells⟩ := hwritten.spells
    obtain ⟨reader, hreader⟩ := Option.isSome_iff_exists.1 (builtin_understands.known hspells)
    refine ⟨args.map String.ofList, reader, ?_, hreader, ?_⟩
    · rw [tokenize_of_laidOut hline hpieces phrase.head?_keyword, String.ofList_toList]
    · intro draft command after
      rw [builtin_understands.reads hreader]
      constructor
      · rintro ⟨hcommand, hpermits, rfl⟩
        obtain rfl := hcommand.unique hspells
        exact ⟨rfl, hpermits, rfl⟩
      · rintro ⟨rfl, hpermits, rfl⟩
        exact ⟨hspells, hpermits, rfl⟩

/-- Two groups with a space after their comma, two options out of order, one of them with
zeros in front, and blanks of several kinds. -/
theorem written_reads_back_press :
    let first : Chord := ⟨[⟨"A", Buttons.a, by decide⟩, ⟨"B", Buttons.b, by decide⟩], by simp⟩
    let second : Chord := ⟨[⟨"dU", Buttons.up, by decide⟩], by simp⟩
    let phrase : Phrase := .press [first, second] (by simp) none (some ⟨7, by decide⟩) (some 3)
    let pieces := ["Press", "A+B, dU", "-s=3", "-i=007"].map String.toList
    let line := " Press\tA+B, dU -s=3  -i=007\r"
    phrase.Written pieces ∧ LaidOut pieces line.toList ∧
      ∃ args reader, tokenize line = some ("Press" :: args) ∧
        Registry.builtin.get? "Press" = some reader ∧
        (reader args).run {} =
          (.ok (.press ⟨[Buttons.a ∪ Buttons.b, Buttons.up], 200, 7, some 3⟩),
            Draft.setStarted {} 3) := by
  intro first second phrase pieces line
  have hwritten : phrase.Written pieces := by
    refine ⟨[first.text ++ ',' :: ' ' :: second.text], [['-', 's', '=', '3'],
      ['-', 'i', '=', '0', '0', '7']], .press (.commaSpace first (.last second)),
      ⟨[('s', .label 3), ('i', .number 7)], .swap _ _ _, ?_⟩, by decide⟩
    exact .cons ⟨['3'], rfl, rfl⟩ (.cons ⟨['0', '0', '7'], .bare ⟨2, rfl⟩, rfl⟩ .nil)
  have hline : LaidOut pieces line.toList := by
    have hspaced : Spaced pieces _ :=
      .more (by decide : Text.Blanks ['\t']) (by simp) <|
      .more (by decide : Text.Blanks [' ']) (by simp) <|
      .more (by decide : Text.Blanks [' ', ' ']) (by simp) <|
      .last (by decide : Text.Blanks ['\r'])
    exact ⟨[' '], _, by decide, hspaced, by decide⟩
  refine ⟨hwritten, hline, ?_⟩
  obtain ⟨args, reader, htokens, hreader, hreads⟩ :=
    (written_reads_back phrase).2 pieces line hwritten hline
  refine ⟨args, reader, htokens, hreader, ?_⟩
  rw [hreads]
  refine ⟨rfl, ⟨nofun, ?_⟩, rfl⟩
  intro label hlabel
  obtain rfl := Option.some.inj hlabel
  decide

end Phrase

end PadScript
