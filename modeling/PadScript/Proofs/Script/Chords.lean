import PadScript.Proofs.Script.Standard

/-!
# Chords

What a chord holds is what its pieces hold together: a bit of its word is set exactly if the
word of one of the pieces has it (`ofChord?_eq_some_iff`). So it matters neither in which
order the pieces stand nor how often, and what a chord holds can be shown and read again, or
sent and decoded (`chord_joins_pieces`).
-/

namespace PadScript

namespace Buttons

-- ---------------------------------------------------------------------------
-- Words bit by bit
-- ---------------------------------------------------------------------------

def holds (buttons : Buttons) (bit : Nat) : Bool := buttons.word.toNat.testBit bit

section Bits

variable {buttons held more : Buttons} {bit : Nat}

theorem holds_ext (h : ∀ bit, held.holds bit = more.holds bit) : held = more := by
  have hw : held.word = more.word := UInt16.toNat_inj.1 (Nat.eq_of_testBit_eq h)
  rw [← ofBits_word held, hw, ofBits_word]

@[simp] theorem holds_union (held more : Buttons) (bit : Nat) :
    (held ∪ more).holds bit = (held.holds bit || more.holds bit) := by
  rw [holds, word_union, UInt16.toNat_or, Nat.testBit_or, holds, holds]

theorem includes_iff : held.includes more ↔ ∀ bit, more.holds bit → held.holds bit := by
  rw [includes, beq_iff_eq, ← UInt16.toNat_inj, UInt16.toNat_and]
  constructor
  · intro h bit hmore
    rw [holds, ← h, Nat.testBit_and, Bool.and_eq_true] at hmore
    exact hmore.1
  · intro h
    refine Nat.eq_of_testBit_eq fun bit => ?_
    rw [Nat.testBit_and]
    cases hmore : more.word.toNat.testBit bit with
    | false => exact Bool.and_false _
    | true => rw [show held.word.toNat.testBit bit = true from h bit hmore, Bool.and_true]

theorem includes_released (buttons : Buttons) : buttons.includes released := by
  rw [includes, word_released, buttons.base, beq_self_eq_true]

theorem holds_foldl_union {parts : List Buttons} {start : Buttons} :
    (parts.foldl union start).holds bit ↔ start.holds bit ∨ ∃ part ∈ parts, part.holds bit := by
  induction parts generalizing start with
  | nil => simp
  | cons part rest ih =>
    rw [List.foldl_cons, ih, show start.union part = start ∪ part from rfl, holds_union,
      Bool.or_eq_true, or_assoc, List.exists_mem_cons_iff]

theorem toNat_ofBytes (low high : UInt8) :
    (high.toUInt16 <<< 8 ||| low.toUInt16).toNat = 256 * high.toNat + low.toNat := by
  have hlow : low.toNat < 2 ^ 8 := low.toNat_lt
  have hhigh : high.toNat < 2 ^ 8 := high.toNat_lt
  have hshift : high.toNat <<< 8 % 65536 = high.toNat <<< 8 := by
    rw [Nat.shiftLeft_eq]
    omega
  calc (high.toUInt16 <<< 8 ||| low.toUInt16).toNat
    _ = high.toNat <<< 8 ||| low.toNat := by simp [hshift]
    _ = high.toNat <<< 8 + low.toNat := (Nat.shiftLeft_add_eq_or_of_lt hlow _).symm
    _ = 256 * high.toNat + low.toNat := by rw [Nat.shiftLeft_eq, Nat.mul_comm]

theorem ofFrame?_frame (buttons : Buttons) : ofFrame? buttons.frame = some buttons := by
  have hlt := buttons.word.toNat_lt
  have hword : (buttons.word >>> 8).toUInt8.toUInt16 <<< 8 ||| buttons.word.toUInt8.toUInt16 =
      buttons.word := by
    apply UInt16.toNat_inj.1
    rw [toNat_ofBytes, UInt16.toNat_toUInt8, UInt16.toNat_toUInt8, UInt16.toNat_shiftRight]
    simp only [UInt16.reduceToNat, Nat.shiftRight_eq_div_pow, Nat.reduceMod, Nat.reducePow]
    omega
  rw [frame, ofFrame?, if_pos rfl, hword, ofBits_word]

end Bits

-- ---------------------------------------------------------------------------
-- Pieces
-- ---------------------------------------------------------------------------

/-- What stands before, between and after the plus signs of a text. -/
def pieces (chord : String) : List String := (chord.toList.splitOn '+').map String.ofList

theorem pieces_ne_nil (chord : String) : pieces chord ≠ [] := by
  simp [pieces]

theorem pieces_intercalate {texts : List String} (hne : texts ≠ [])
    (hplus : ∀ text ∈ texts, '+' ∉ text.toList) : pieces ("+".intercalate texts) = texts := by
  have hsplit : (['+'].intercalate (texts.map String.toList)).splitOn '+' =
      texts.map String.toList := by
    apply List.splitOn_intercalate
    · intro text htext
      obtain ⟨piece, hpiece, rfl⟩ := List.mem_map.1 htext
      exact hplus piece hpiece
    · simpa using hne
  rw [pieces, String.toList_intercalate]
  simp [hsplit, Function.comp_def]

theorem ofSymbol?_eq_some_iff {symbol : String} {buttons : Buttons} :
    ofSymbol? symbol = some buttons ↔ (symbol, buttons) ∈ symbols := by
  constructor
  · intro h
    obtain ⟨before, after, hsymbols, -⟩ := List.lookup_eq_some_iff.1 h
    simp [hsymbols]
  · have hall : ∀ entry ∈ symbols, ofSymbol? entry.1 = some entry.2 := by decide
    exact hall (symbol, buttons)

def Denote (texts : List String) (parts : List Buttons) : Prop :=
  List.Forall₂ (fun text part => ofSymbol? text = some part) texts parts

section Pieces

variable {chord : String} {buttons : Buttons} {texts : List String} {parts : List Buttons}
  {bit : Nat}

theorem ofChord?_eq_some : ofChord? chord = some buttons ↔
    ∃ parts, Denote (pieces chord) parts ∧ parts.foldl union released = buttons := by
  simp only [ofChord?, Option.map_eq_some_iff, ← List.splitOn_eq_splitOnP, Denote, ← mapM_eq_some,
    pieces, List.mapM_map]
  rfl

theorem exists_denote_iff :
    (∃ parts, Denote texts parts) ↔ ∀ text ∈ texts, text ∈ symbols.map Prod.fst := by
  constructor
  · rintro ⟨parts, h⟩
    induction h with
    | nil => simp
    | cons htext _ ih =>
      exact List.forall_mem_cons.2 ⟨List.mem_map_of_mem (ofSymbol?_eq_some_iff.1 htext), ih⟩
  · intro h
    induction texts with
    | nil => exact ⟨[], .nil⟩
    | cons text rest ih =>
      obtain ⟨htext, hrest⟩ := List.forall_mem_cons.1 h
      obtain ⟨⟨_, part⟩, hmem, rfl⟩ := List.mem_map.1 htext
      obtain ⟨parts, hparts⟩ := ih hrest
      exact ⟨part :: parts, .cons (ofSymbol?_eq_some_iff.2 hmem) hparts⟩

theorem Denote.holds_iff (h : Denote texts parts) :
    (∃ part ∈ parts, part.holds bit) ↔
      ∃ text ∈ texts, ∃ part, (text, part) ∈ symbols ∧ part.holds bit := by
  induction h with
  | nil => simp
  | @cons text part rest parts htext _ ih =>
    have hfirst : (∃ other, (text, other) ∈ symbols ∧ other.holds bit) ↔ part.holds bit := by
      simp [← ofSymbol?_eq_some_iff, htext]
    rw [List.exists_mem_cons_iff, List.exists_mem_cons_iff, ih, hfirst]

/-- The base bits are those of every part, so a chord adds nothing to its pieces. -/
theorem Denote.holds_union (h : Denote texts parts) (hne : texts ≠ []) :
    (parts.foldl union released).holds bit ↔
      ∃ text ∈ texts, ∃ part, (text, part) ∈ symbols ∧ part.holds bit := by
  rw [holds_foldl_union, h.holds_iff, or_iff_right_iff_imp, ← h.holds_iff]
  intro hbase
  obtain ⟨text, rest, rfl⟩ := List.exists_cons_of_ne_nil hne
  obtain ⟨part, parts, -, -, rfl⟩ := List.forall₂_cons_left_iff.1 h
  exact ⟨part, List.mem_cons_self, includes_iff.1 part.includes_released bit hbase⟩

theorem ofChord?_eq_some_iff :
    ofChord? chord = some buttons ↔
      (∀ piece ∈ pieces chord, piece ∈ symbols.map Prod.fst) ∧
        ∀ bit, buttons.holds bit ↔
          ∃ piece ∈ pieces chord, ∃ part, (piece, part) ∈ symbols ∧ part.holds bit := by
  rw [ofChord?_eq_some]
  constructor
  · rintro ⟨parts, hparts, rfl⟩
    exact ⟨exists_denote_iff.1 ⟨parts, hparts⟩, fun bit => hparts.holds_union (pieces_ne_nil chord)⟩
  · rintro ⟨hpieces, hbits⟩
    obtain ⟨parts, hparts⟩ := exists_denote_iff.2 hpieces
    refine ⟨parts, hparts, holds_ext fun bit => Bool.eq_iff_iff.2 ?_⟩
    rw [hparts.holds_union (pieces_ne_nil chord), hbits]

theorem isSome_ofChord?_iff :
    (ofChord? chord).isSome ↔ ∀ piece ∈ pieces chord, piece ∈ symbols.map Prod.fst := by
  simp only [← exists_denote_iff, Option.isSome_iff_exists, ofChord?_eq_some]
  constructor
  · rintro ⟨_, parts, hparts, -⟩
    exact ⟨parts, hparts⟩
  · rintro ⟨parts, hparts⟩
    exact ⟨_, parts, hparts, rfl⟩

end Pieces

-- ---------------------------------------------------------------------------
-- Names
-- ---------------------------------------------------------------------------

theorem mem_symbols_of_mem_names : ∀ entry ∈ names, (entry.2, entry.1) ∈ symbols := by decide

theorem plus_notMem_names : ∀ entry ∈ names, '+' ∉ entry.2.toList := by decide

theorem exists_names_of_mem_symbols : ∀ entry ∈ symbols, ∃ first ∈ names, ∃ second ∈ names,
    entry.2 = first.1 ∪ second.1 := by decide +kernel

theorem holds_iff_of_ofChord? {chord : String} {buttons : Buttons}
    (h : ofChord? chord = some buttons) (bit : Nat) :
    buttons.holds bit ↔ ∃ entry ∈ names, buttons.includes entry.1 ∧ entry.1.holds bit := by
  constructor
  · intro hbit
    obtain ⟨hpieces, hbits⟩ := ofChord?_eq_some_iff.1 h
    obtain ⟨piece, hpiece, part, hsymbol, hpart⟩ := (hbits bit).1 hbit
    have hincludes (other : Nat) (hother : part.holds other) : buttons.holds other :=
      (hbits other).2 ⟨piece, hpiece, part, hsymbol, hother⟩
    obtain ⟨first, hfirst, second, hsecond, rfl⟩ := exists_names_of_mem_symbols _ hsymbol
    rw [holds_union, Bool.or_eq_true] at hpart
    rcases hpart with hpart | hpart
    · exact ⟨first, hfirst, includes_iff.2 fun _ ho => hincludes _ (by simp [ho]), hpart⟩
    · exact ⟨second, hsecond, includes_iff.2 fun _ ho => hincludes _ (by simp [ho]), hpart⟩
  · rintro ⟨entry, -, hincludes, hbit⟩
    exact includes_iff.1 hincludes bit hbit

theorem ofChord?_show {chord : String} {buttons : Buttons}
    (h : ofChord? chord = some buttons) : ofChord? buttons.show = some buttons := by
  have hheld := holds_iff_of_ofChord? h
  have hreleased : buttons.isReleased = false := by
    simpa [isReleased] using ne_released_of_ofChord? h
  have hpieces : pieces buttons.show =
      (names.filter fun entry => buttons.includes entry.1).map (·.2) := by
    rw [Buttons.show, hreleased, if_neg Bool.false_ne_true]
    apply pieces_intercalate
    · -- Some button is shown, for the base bits are held.
      have hbase : buttons.holds 7 := includes_iff.1 buttons.includes_released 7 (by decide)
      obtain ⟨entry, hentry, hincludes, -⟩ := (hheld 7).1 hbase
      exact List.ne_nil_of_mem (List.mem_map_of_mem (List.mem_filter.2 ⟨hentry, hincludes⟩))
    · intro text htext
      obtain ⟨entry, hentry, rfl⟩ := List.mem_map.1 htext
      exact plus_notMem_names entry (List.mem_of_mem_filter hentry)
  rw [ofChord?_eq_some_iff, hpieces]
  constructor
  · intro piece hpiece
    obtain ⟨entry, hentry, rfl⟩ := List.mem_map.1 hpiece
    have hsymbol := mem_symbols_of_mem_names entry (List.mem_of_mem_filter hentry)
    exact List.mem_map_of_mem hsymbol
  · intro bit
    rw [hheld]
    constructor
    · rintro ⟨entry, hentry, hincludes, hbit⟩
      exact ⟨entry.2, List.mem_map_of_mem (List.mem_filter.2 ⟨hentry, hincludes⟩), entry.1,
        mem_symbols_of_mem_names entry hentry, hbit⟩
    · rintro ⟨piece, hpiece, part, hsymbol, hbit⟩
      obtain ⟨entry, hentry, rfl⟩ := List.mem_map.1 hpiece
      obtain ⟨hentry, hincludes⟩ := List.mem_filter.1 hentry
      have hname := ofSymbol?_eq_some_iff.2 (mem_symbols_of_mem_names entry hentry)
      obtain rfl := Option.some.inj (hname.symm.trans (ofSymbol?_eq_some_iff.2 hsymbol))
      exact ⟨entry, hentry, hincludes, hbit⟩

/-- A text is a chord exactly if each of its pieces is a symbol, and it then holds what the
pieces hold together: other pieces in another order or number make no difference as long as
they are the same. That is never nothing, it is shown by a chord of its own, and its frame
decodes to it. -/
theorem chord_joins_pieces (chord : String) :
    ((ofChord? chord).isSome ↔ ∀ piece ∈ pieces chord, piece ∈ symbols.map Prod.fst) ∧
      ∀ buttons, ofChord? chord = some buttons →
        (∀ bit, buttons.holds bit ↔
          ∃ piece ∈ pieces chord, ∃ part, (piece, part) ∈ symbols ∧ part.holds bit) ∧
        (∀ other, (∀ piece, piece ∈ pieces other ↔ piece ∈ pieces chord) →
          ofChord? other = some buttons) ∧
        buttons ≠ released ∧ buttons.word &&& baseBits = baseBits ∧
        ofChord? buttons.show = some buttons ∧ ofFrame? buttons.frame = some buttons := by
  refine ⟨isSome_ofChord?_iff, fun buttons h => ?_⟩
  have hpieces := ofChord?_eq_some_iff.1 h
  refine ⟨hpieces.2, fun other hsame => ?_, ne_released_of_ofChord? h, buttons.base,
    ofChord?_show h, ofFrame?_frame buttons⟩
  rw [ofChord?_eq_some_iff]
  simpa only [hsame] using hpieces

/-- An alias, a symbol of two buttons and a repetition. -/
theorem chord_joins_pieces_again :
    ofChord? "Sl+tl+A+Sl" = some (a ∪ softReset) ∧ ofChord? "tl+A+Sl" = some (a ∪ softReset) ∧
      ofChord? "A+Y+St" = some (a ∪ softReset) ∧
      ofFrame? [0x80, 0x89, 0x82] = some (a ∪ softReset) := by
  have hread : ofChord? "Sl+tl+A+Sl" = some (a ∪ softReset) := by decide +kernel
  obtain ⟨-, hother, -, -, hshow, hframe⟩ := (chord_joins_pieces "Sl+tl+A+Sl").2 _ hread
  have hfirst : pieces "Sl+tl+A+Sl" = ["Sl", "tl", "A", "Sl"] := by decide +kernel
  have hsecond : pieces "tl+A+Sl" = ["tl", "A", "Sl"] := by decide +kernel
  have hsame (piece : String) : piece ∈ pieces "tl+A+Sl" ↔ piece ∈ pieces "Sl+tl+A+Sl" := by
    simp only [hfirst, hsecond, List.mem_cons, List.not_mem_nil]
    tauto
  have hshown : (a ∪ softReset).show = "A+Y+St" := by decide +kernel
  exact ⟨hread, hother _ hsame, hshown ▸ hshow, hframe⟩

end Buttons

end PadScript
