import Mathlib.Data.List.Induction
import PadScript.Proofs.Script.Layout

/-!
# Where a line is cut

The tokens of a line, one after the other, are its characters without the blanks. A cut is
wherever there are blanks, except for the single space after a comma, which is read as
nothing: `joinCommas` drops just that space and keeps everything else in its place
(`joinCommas_neighbours`), and words end exactly at blanks (`together_words_iff`). So nothing
of a line is lost, and blanks at its ends do not count (`tokens_of_line`).
-/

namespace PadScript

namespace Text

-- ---------------------------------------------------------------------------
-- Characters that are not blank
-- ---------------------------------------------------------------------------

def visible (s : List Char) : List Char := s.filter fun c => !isBlank c

variable {s gap before rest left right : List Char} {c d : Char}

@[simp] theorem visible_append (s rest : List Char) :
    visible (s ++ rest) = visible s ++ visible rest := List.filter_append s rest

theorem visible_cons (h : isBlank c = false) (s : List Char) : visible (c :: s) = c :: visible s :=
  List.filter_cons_of_pos (by simp [h])

theorem visible_cons_of_isBlank (h : isBlank c = true) (s : List Char) :
    visible (c :: s) = visible s :=
  List.filter_cons_of_neg (by simp [h])

theorem visible_eq_nil_iff : visible s = [] ↔ Blanks s := by
  simp [visible, Blanks, List.filter_eq_nil_iff]

theorem visible_of_solid (h : Solid s) : visible s = s :=
  List.filter_eq_self.2 fun c hc => by simp [h c hc]

theorem exists_of_visible (h : visible s = before ++ c :: rest) :
    ∃ left right, s = left ++ c :: right ∧ visible left = before ∧ visible right = rest ∧
      isBlank c = false := by
  obtain ⟨left, more, rfl, hbefore, hmore⟩ := List.filter_eq_append_iff.1 h
  obtain ⟨gap, right, rfl, hgap, hc, hrest⟩ := List.filter_eq_cons_iff.1 hmore
  have hblanks : Blanks gap := fun d hd => by simpa using hgap d hd
  refine ⟨left ++ gap, right, by simp, ?_, hrest, by simpa using hc⟩
  rw [visible_append, visible_eq_nil_iff.2 hblanks, List.append_nil]
  exact hbefore

theorem exists_neighbours (h : visible s = before ++ c :: d :: rest) :
    ∃ left gap right, s = left ++ c :: (gap ++ d :: right) ∧ visible left = before ∧
      Blanks gap ∧ isBlank c = false ∧ isBlank d = false := by
  obtain ⟨left, more, rfl, hbefore, hmore, hc⟩ := exists_of_visible h
  have hnext : visible more = [] ++ d :: rest := hmore
  obtain ⟨gap, right, rfl, hgap, -, hd⟩ := exists_of_visible hnext
  exact ⟨left, gap, right, rfl, hbefore, visible_eq_nil_iff.1 hgap, hc, hd⟩

-- ---------------------------------------------------------------------------
-- Words
-- ---------------------------------------------------------------------------

theorem flatten_words (s : List Char) : (words s).flatten = visible s := by
  rw [words, List.flatten_filter_not_isEmpty]
  induction s with
  | nil => rfl
  | cons c s ih =>
    rw [List.splitOnP_cons_eq_if_modifyHead]
    cases hc : isBlank c with
    | true =>
      rw [visible_cons_of_isBlank hc, ← ih]
      rfl
    | false =>
      obtain ⟨first, others, hsplit⟩ :=
        List.exists_cons_of_ne_nil (List.splitOnP_ne_nil isBlank s)
      rw [visible_cons hc, ← ih, hsplit]
      rfl

theorem words_append_blanks (s : List Char) (h : Blanks gap) : words (s ++ gap) = words s := by
  cases gap with
  | nil => rw [List.append_nil]
  | cons c gap =>
    obtain ⟨hc, hgap⟩ := List.forall_mem_cons.1 h
    have hnone : words gap = [] := by simpa using words_blanks_append hgap []
    rw [words_append_cons hc, hnone, List.append_nil]

def EndsBlank (s : List Char) : Prop := s = [] ∨ ∃ front c, s = front ++ [c] ∧ isBlank c = true

def BeginsBlank (s : List Char) : Prop := s = [] ∨ ∃ c back, s = c :: back ∧ isBlank c = true

theorem exists_solid_end (s : List Char) :
    ∃ front u, s = front ++ u ∧ EndsBlank front ∧ Solid u := by
  induction s using List.reverseRecOn with
  | nil => exact ⟨[], [], rfl, .inl rfl, by simp [Solid]⟩
  | append_singleton s c ih =>
    cases hc : isBlank c with
    | true => exact ⟨s ++ [c], [], by simp, .inr ⟨s, c, rfl, hc⟩, by simp [Solid]⟩
    | false =>
      obtain ⟨front, u, rfl, hfront, hu⟩ := ih
      refine ⟨front, u ++ [c], by simp, hfront, List.forall_mem_append.2 ⟨hu, ?_⟩⟩
      simpa using hc

theorem exists_solid_start (s : List Char) :
    ∃ v back, s = v ++ back ∧ Solid v ∧ BeginsBlank back := by
  induction s with
  | nil => exact ⟨[], [], rfl, by simp [Solid], .inl rfl⟩
  | cons c s ih =>
    cases hc : isBlank c with
    | true => exact ⟨[], c :: s, rfl, by simp [Solid], .inr ⟨c, s, rfl, hc⟩⟩
    | false =>
      obtain ⟨v, back, rfl, hv, hback⟩ := ih
      exact ⟨c :: v, back, rfl, List.forall_mem_cons.2 ⟨hc, hv⟩, hback⟩

/-- A stretch without blanks that cannot be made longer is a word. -/
theorem words_amid {front w back : List Char} (hfront : EndsBlank front)
    (hback : BeginsBlank back) (h : Solid w) (hne : w ≠ []) :
    words (front ++ (w ++ back)) = words front ++ w :: words back := by
  have hword : words (w ++ back) = w :: words back := by
    rcases hback with rfl | ⟨c, back, rfl, hc⟩
    · rw [List.append_nil, words_of_solid h hne, words_nil]
    · have hskip : words (c :: back) = words back := words_append_cons hc [] back
      rw [words_append_cons hc, words_of_solid h hne, hskip]
      rfl
  rcases hfront with rfl | ⟨front, c, rfl, hc⟩
  · rw [List.nil_append, words_nil, List.nil_append, hword]
  · rw [List.append_assoc, List.singleton_append, words_append_cons hc, hword,
      words_append_cons hc front []]
    simp

-- ---------------------------------------------------------------------------
-- Cuts
-- ---------------------------------------------------------------------------

/-- Two characters that follow each other in what the pieces make up, behind `before`, are in
one piece. -/
def Together (pieces : List (List Char)) (before : List Char) (c d : Char) : Prop :=
  ∃ earlier u v later, pieces = earlier ++ (u ++ c :: d :: v) :: later ∧
    earlier.flatten ++ u = before

theorem not_together_append {pieces others : List (List Char)}
    (h : pieces.flatten = before ++ [c]) : ¬ Together (pieces ++ others) before c d := by
  rintro ⟨earlier, u, v, later, hpieces, rfl⟩
  -- The cut after `c` is before the piece, behind it, or where the piece begins.
  have hlength := congrArg List.length h
  rcases List.append_eq_append_iff.1 hpieces with ⟨more, rfl, -⟩ | ⟨more, rfl, hmore⟩
  · simp only [List.flatten_append, List.length_append, List.length_singleton] at hlength
    omega
  · cases more with
    | nil => simp at hlength
    | cons piece more =>
      obtain ⟨rfl, -⟩ := List.cons.inj hmore
      simp only [List.flatten_append, List.flatten_cons, List.length_append, List.length_cons,
        List.length_nil] at hlength
      omega

theorem together_words_iff (hc : isBlank c = false) (hd : isBlank d = false) (hgap : Blanks gap) :
    Together (words (left ++ c :: (gap ++ d :: right))) (visible left) c d ↔ gap = [] := by
  cases gap with
  | nil =>
    refine iff_of_true ?_ rfl
    obtain ⟨front, u, rfl, hfront, hu⟩ := exists_solid_end left
    obtain ⟨v, back, rfl, hv, hback⟩ := exists_solid_start right
    have hsolid : Solid (u ++ c :: d :: v) :=
      List.forall_mem_append.2 ⟨hu, List.forall_mem_cons.2 ⟨hc, List.forall_mem_cons.2 ⟨hd, hv⟩⟩⟩
    have hword := words_amid hfront hback hsolid (by simp)
    refine ⟨words front, u, v, words back, ?_, ?_⟩
    · simpa using hword
    · rw [flatten_words, visible_append, visible_of_solid hu]
  | cons b gap =>
    refine iff_of_false ?_ (List.cons_ne_nil b gap)
    obtain ⟨hb, -⟩ := List.forall_mem_cons.1 hgap
    have hcut : words (left ++ c :: (b :: gap ++ d :: right)) =
        words (left ++ [c]) ++ words (gap ++ d :: right) := by
      rw [← words_append_cons hb]
      simp
    rw [hcut]
    refine not_together_append ?_
    rw [flatten_words, visible_append, visible_cons hc]
    rfl

end Text

-- ---------------------------------------------------------------------------
-- The space after a comma
-- ---------------------------------------------------------------------------

namespace Tokens

open Text

variable {s gap left : List Char} {c d : Char}

theorem joinCommas_append_cons (first : List Char) (hd : d ≠ ' ') (rest : List Char) :
    joinCommas (first ++ d :: rest) = joinCommas first ++ joinCommas (d :: rest) := by
  fun_induction joinCommas first with
  | case1 first ih =>
    rw [List.cons_append, List.cons_append, joinCommas, ih]
    rfl
  | case2 c first hno ih =>
    rw [List.cons_append, joinCommas, ih]
    · rfl
    · intro after hc he
      cases first with
      | nil => exact hd (List.cons.inj he).1
      | cons e first =>
        obtain ⟨rfl, -⟩ := List.cons.inj he
        exact hno first hc rfl
  | case3 => rfl

theorem visible_joinCommas (s : List Char) : visible (joinCommas s) = visible s := by
  fun_induction joinCommas s with
  | case1 rest ih =>
    rw [visible_cons not_isBlank_comma, visible_cons not_isBlank_comma,
      visible_cons_of_isBlank isBlank_space, ih]
  | case2 c rest _ ih =>
    cases hc : isBlank c with
    | true => rw [visible_cons_of_isBlank hc, visible_cons_of_isBlank hc, ih]
    | false => rw [visible_cons hc, visible_cons hc, ih]
  | case3 => rfl

/-- How blanks behind a character are read: without the space that belongs to a comma. -/
def gapAfter (c : Char) : List Char → List Char
  | ' ' :: gap => if c = ',' then gap else ' ' :: gap
  | gap => gap

theorem gapAfter_blanks (h : Blanks gap) : Blanks (gapAfter c gap) := by
  unfold gapAfter
  split
  · split
    · exact fun d hd => h d (List.mem_cons_of_mem _ hd)
    · exact h
  · exact h

theorem gapAfter_eq_nil_iff : gapAfter c gap = [] ↔ gap = [] ∨ c = ',' ∧ gap = [' '] := by
  unfold gapAfter
  split
  · split <;> simp_all
  · rename_i hno
    refine ⟨.inl, ?_⟩
    rintro (h | ⟨-, h⟩)
    · exact h
    · exact absurd h (hno [])

theorem joinCommas_gapAfter (hgap : Blanks gap) {rest : List Char} (hrest : rest.head? ≠ some ' ') :
    joinCommas (c :: (gap ++ rest)) = c :: (gapAfter c gap ++ joinCommas rest) := by
  unfold gapAfter
  split
  · rename_i gap
    have hcomma : ',' ∉ gap := comma_notMem_blanks fun d hd => hgap d (List.mem_cons_of_mem _ hd)
    split
    · rename_i hc
      rw [hc, List.cons_append, joinCommas, joinCommas_append_of_notMem hcomma]
    · rename_i hc
      have hspace : ',' ∉ c :: ' ' :: gap := by simpa [hcomma] using Ne.symm hc
      exact joinCommas_append_of_notMem hspace rest
  · rename_i hno
    rw [joinCommas, joinCommas_append_of_notMem (comma_notMem_blanks hgap)]
    intro after hc he
    cases gap with
    | nil => exact hrest (by rw [← List.nil_append rest, he]; rfl)
    | cons d gap =>
      obtain ⟨rfl, -⟩ := List.cons.inj he
      exact hno gap rfl

/-- Dropping spaces after commas leaves two characters neighbours, and may close the gap between
them. -/
theorem joinCommas_neighbours (hc : isBlank c = false) (hd : isBlank d = false)
    (hgap : Blanks gap) (left right : List Char) :
    ∃ right', joinCommas (left ++ c :: (gap ++ d :: right)) =
      joinCommas left ++ c :: (gapAfter c gap ++ d :: right') := by
  have hspace {e : Char} (he : isBlank e = false) : e ≠ ' ' := by
    rintro rfl
    cases he.symm.trans isBlank_space
  obtain ⟨right', hright⟩ := joinCommas_cons d right
  refine ⟨right', ?_⟩
  rw [joinCommas_append_cons left (hspace hc), joinCommas_gapAfter hgap (by simpa using hspace hd),
    hright]

theorem exists_joinCommas_append_blanks (s : List Char) (hgap : Blanks gap) :
    ∃ gap', Blanks gap' ∧ joinCommas (s ++ gap) = joinCommas s ++ gap' := by
  by_cases hlast : s.getLast? = some ','
  · obtain ⟨init, rfl⟩ := List.getLast?_eq_some_iff.1 hlast
    have hnospace : (',' : Char) ≠ ' ' := by decide
    have hnothing : ([] : List Char).head? ≠ some ' ' := by simp
    have htail : joinCommas (',' :: gap) = ',' :: gapAfter ',' gap := by
      simpa [joinCommas] using joinCommas_gapAfter (c := ',') hgap hnothing
    refine ⟨gapAfter ',' gap, gapAfter_blanks hgap, ?_⟩
    rw [List.append_assoc, List.singleton_append, joinCommas_append_cons init hnospace,
      joinCommas_append_cons init hnospace, htail]
    simp [joinCommas]
  · refine ⟨gap, hgap, ?_⟩
    rw [joinCommas_append hlast, joinCommas_of_notMem (comma_notMem_blanks hgap)]

-- ---------------------------------------------------------------------------
-- Lines
-- ---------------------------------------------------------------------------

theorem head?_trimStart (s : List Char) : (trimStart s).head? = (visible s).head? := by
  induction s with
  | nil => rfl
  | cons c s ih =>
    rw [trimStart] at ih ⊢
    cases hc : isBlank c with
    | true => rw [visible_cons_of_isBlank hc, List.dropWhile_cons_of_pos hc, ih]
    | false =>
      rw [visible_cons hc, List.dropWhile_cons_of_neg (by simp [hc])]
      rfl

theorem words_joinCommas_trimStart (s : List Char) :
    words (joinCommas (trimStart s)) = words (joinCommas s) := by
  induction s with
  | nil => rfl
  | cons c s ih =>
    rw [trimStart] at ih ⊢
    cases hc : isBlank c with
    | true =>
      have hcomma : ',' ∉ [c] := comma_notMem_blanks (by simpa [Blanks] using hc)
      rw [List.dropWhile_cons_of_pos hc, ih, ← List.singleton_append,
        joinCommas_append_of_notMem hcomma]
      exact (words_append_cons hc [] (joinCommas s)).symm
    | false => rw [List.dropWhile_cons_of_neg (by simp [hc])]

/-- Without a character that is not blank, or with `#` as the first of them. -/
def Skipped (line : List Char) : Prop := visible line = [] ∨ (visible line).head? = some '#'

theorem ofChars_eq_none_iff {line : List Char} : ofChars line = none ↔ Skipped line := by
  have hhead := head?_trimStart line
  unfold ofChars Skipped
  split
  · rename_i hnil
    rw [hnil] at hhead
    exact iff_of_true rfl (.inl (List.head?_eq_none_iff.1 hhead.symm))
  · rename_i hhash
    rw [hhash] at hhead
    exact iff_of_true rfl (.inr hhead.symm)
  · rename_i trimmed hne hno
    refine iff_of_false (by simp) ?_
    rw [← hhead, ← List.head?_eq_none_iff, ← hhead]
    cases htrim : trimStart line with
    | nil => exact absurd htrim hne
    | cons c rest =>
      simp only [List.head?_cons, reduceCtorEq, Option.some.injEq, false_or]
      rintro rfl
      exact hno rest htrim

theorem ofChars_of_not_skipped {line : List Char} (h : ¬ Skipped line) :
    ofChars line = some (words (joinCommas line)) := by
  rw [← words_joinCommas_trimStart]
  have hsome := mt ofChars_eq_none_iff.1 h
  unfold ofChars at hsome ⊢
  split
  · rename_i hnil
    simp [hnil] at hsome
  · rename_i hhash
    simp [hhash] at hsome
  · rfl

theorem ofChars_pad {before after : List Char} (hbefore : Blanks before) (hafter : Blanks after)
    (line : List Char) : ofChars (before ++ line ++ after) = ofChars line := by
  have hvisible : visible (before ++ line ++ after) = visible line := by
    simp [visible_eq_nil_iff.2 hbefore, visible_eq_nil_iff.2 hafter]
  have hskipped : Skipped (before ++ line ++ after) ↔ Skipped line := by
    rw [Skipped, Skipped, hvisible]
  by_cases h : Skipped line
  · rw [ofChars_eq_none_iff.2 h, ofChars_eq_none_iff.2 (hskipped.2 h)]
  · obtain ⟨gap, hgap, hjoin⟩ := exists_joinCommas_append_blanks (before ++ line) hafter
    rw [ofChars_of_not_skipped h, ofChars_of_not_skipped (mt hskipped.1 h), hjoin,
      words_append_blanks _ hgap, joinCommas_append_of_notMem (comma_notMem_blanks hbefore),
      words_blanks_append hbefore]

/-- The tokens make up the visible characters of a line, and are cut at its blanks but for the
one space that belongs to a comma. -/
structure CutAt (line : List Char) (tokens : List (List Char)) : Prop where
  nonempty : tokens ≠ []
  each : ∀ token ∈ tokens, token ≠ [] ∧ Solid token
  flatten : tokens.flatten = visible line
  cuts : ∀ before c d after, visible line = before ++ c :: d :: after →
    ∃ left gap right, line = left ++ c :: (gap ++ d :: right) ∧ visible left = before ∧
      Blanks gap ∧ (Together tokens before c d ↔ gap = [] ∨ c = ',' ∧ gap = [' '])

theorem cutAt_of_ofChars {line : List Char} {tokens : List (List Char)}
    (h : ofChars line = some tokens) : CutAt line tokens := by
  have hskipped : ¬ Skipped line := fun hs => by
    cases h.symm.trans (ofChars_eq_none_iff.2 hs)
  obtain rfl := Option.some.inj (h.symm.trans (ofChars_of_not_skipped hskipped))
  have hflatten : (words (joinCommas line)).flatten = visible line := by
    rw [flatten_words, visible_joinCommas]
  refine ⟨fun hnil => hskipped (.inl ?_), fun token htoken => ?_, hflatten, ?_⟩
  · rw [← hflatten, hnil]
    rfl
  · exact ⟨ne_nil_of_mem_words htoken, not_isBlank_of_mem_words htoken⟩
  · intro before c d after hvisible
    obtain ⟨left, gap, right, rfl, rfl, hgap, hc, hd⟩ := exists_neighbours hvisible
    obtain ⟨right', hjoin⟩ := joinCommas_neighbours hc hd hgap left right
    refine ⟨left, gap, right, rfl, rfl, hgap, ?_⟩
    rw [hjoin, ← visible_joinCommas left, together_words_iff hc hd (gapAfter_blanks hgap),
      gapAfter_eq_nil_iff]

end Tokens

open Text Tokens

/-- A line has no tokens when it is blank or its first visible character is `#`. Otherwise its
tokens are its visible characters, cut where there are blanks between two of them that are more
than the space after a comma. Blanks around a line do not change them. -/
theorem tokens_of_line (line : String) :
    (tokenize line = none ↔ Skipped line.toList) ∧
    (∀ tokens, tokenize line = some tokens → CutAt line.toList (tokens.map String.toList)) ∧
    ∀ before after : String, Blanks before.toList → Blanks after.toList →
      tokenize (before ++ line ++ after) = tokenize line := by
  refine ⟨by rw [tokenize, Option.map_eq_none_iff, ofChars_eq_none_iff], ?_, ?_⟩
  · intro tokens h
    obtain ⟨pieces, hpieces, rfl⟩ := Option.map_eq_some_iff.1 h
    have hmap : (pieces.map String.ofList).map String.toList = pieces := by
      simp [Function.comp_def]
    rw [hmap]
    exact cutAt_of_ofChars hpieces
  · intro before after hbefore hafter
    rw [tokenize, tokenize, String.toList_append, String.toList_append, ofChars_pad hbefore hafter]

/-- Two spaces after a comma, one space after a comma, a comma between blanks, and a tab. -/
theorem tokens_of_line_commas :
    let line := "Press A,  B, X\t#1 ,"
    tokenize line = some ["Press", "A,", "B,X", "#1", ","] ∧
    CutAt line.toList (["Press", "A,", "B,X", "#1", ","].map String.toList) ∧
    tokenize ("\u3000" ++ line ++ " ") = some ["Press", "A,", "B,X", "#1", ","] := by
  intro line
  have htokens : tokenize line = some ["Press", "A,", "B,X", "#1", ","] := by decide +kernel
  obtain ⟨-, hcut, hpad⟩ := tokens_of_line line
  refine ⟨htokens, hcut _ htokens, ?_⟩
  rw [hpad "\u3000" " " (by decide) (by decide), htokens]

end PadScript
