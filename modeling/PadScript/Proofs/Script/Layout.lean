import PadScript.Proofs.Script.Acceptance

/-!
# Lines laid out

A line may be written with more blanks than it needs: around its tokens, and after the
commas of a list, where one space does not count. `Spaced` says how the pieces of a line
stand in it, and `Piece` which token a piece is written for. No layout is lost or gained in
reading (`tokenize_of_laidOut`): a piece that does not end in a comma cannot take the blank
that follows it, so dropping spaces after commas neither merges two pieces nor parts one.
-/

namespace PadScript

-- ---------------------------------------------------------------------------
-- Words
-- ---------------------------------------------------------------------------

namespace Text

def Blanks (s : List Char) : Prop := ∀ c ∈ s, isBlank c = true

def Solid (s : List Char) : Prop := ∀ c ∈ s, isBlank c = false

/-- Without blanks and commas, so that nothing about it is dropped or split. -/
def Plain (s : List Char) : Prop := ∀ c ∈ s, isBlank c = false ∧ c ≠ ','

instance (s : List Char) : Decidable (Blanks s) :=
  decidable_of_iff (s.all isBlank = true) List.all_eq_true

instance (s : List Char) : Decidable (Solid s) :=
  decidable_of_iff (s.all (fun c => !isBlank c) = true) (by simp [Solid])

instance (s : List Char) : Decidable (Plain s) :=
  decidable_of_iff (s.all (fun c => !isBlank c && c != ',') = true) (by simp [Plain])

theorem Plain.solid {s : List Char} (h : Plain s) : Solid s := fun c hc => (h c hc).1

theorem Plain.comma_notMem {s : List Char} (h : Plain s) : ',' ∉ s := fun hc => (h ',' hc).2 rfl

theorem plain_cons {c : Char} {s : List Char} (hblank : isBlank c = false) (hcomma : c ≠ ',')
    (h : Plain s) : Plain (c :: s) :=
  List.forall_mem_cons.2 ⟨⟨hblank, hcomma⟩, h⟩

variable {w gap : List Char}

theorem words_append_cons {c : Char} (h : isBlank c = true) (first rest : List Char) :
    words (first ++ c :: rest) = words first ++ words rest := by
  rw [words, List.splitOnP_append_cons _ _ h, List.filter_append]
  rfl

theorem words_blanks_append (h : Blanks gap) (s : List Char) : words (gap ++ s) = words s := by
  induction gap with
  | nil => rfl
  | cons c gap ih =>
    obtain ⟨hc, hgap⟩ := List.forall_mem_cons.1 h
    rw [List.cons_append, ← ih hgap]
    exact words_append_cons hc [] (gap ++ s)

theorem words_of_solid (h : Solid w) (hne : w ≠ []) : words w = [w] := by
  rw [words, List.splitOnP_eq_singleton h]
  exact List.filter_cons_of_pos (by simpa using hne)

theorem words_solid_append (h : Solid w) (hne : w ≠ []) (hgap : Blanks gap) (hapart : gap ≠ [])
    (s : List Char) : words (w ++ (gap ++ s)) = w :: words s := by
  obtain ⟨c, gap, rfl⟩ := List.exists_cons_of_ne_nil hapart
  obtain ⟨hc, hgap⟩ := List.forall_mem_cons.1 hgap
  rw [List.cons_append, words_append_cons hc, words_of_solid h hne, words_blanks_append hgap]
  rfl

theorem words_solid_blanks (h : Solid w) (hne : w ≠ []) (hgap : Blanks gap) :
    words (w ++ gap) = [w] := by
  cases gap with
  | nil => rw [List.append_nil, words_of_solid h hne]
  | cons c gap =>
    rw [← List.append_nil (c :: gap), words_solid_append h hne hgap (List.cons_ne_nil c gap)]
    rfl

end Text

-- ---------------------------------------------------------------------------
-- Commas
-- ---------------------------------------------------------------------------

namespace Tokens

theorem joinCommas_of_notMem {s : List Char} (h : ',' ∉ s) : joinCommas s = s := by
  induction s with
  | nil => rfl
  | cons c s ih =>
    rw [List.mem_cons, not_or] at h
    rw [joinCommas, ih h.2]
    intro rest hcomma
    exact absurd hcomma.symm h.1

theorem getLast?_ne_of_cons {c d : Char} {s : List Char} (h : (c :: s).getLast? ≠ some d) :
    s.getLast? ≠ some d := by
  cases s with
  | nil => exact nofun
  | cons e s => simpa using h

theorem joinCommas_append {first : List Char} (h : first.getLast? ≠ some ',')
    (rest : List Char) : joinCommas (first ++ rest) = joinCommas first ++ joinCommas rest := by
  fun_induction joinCommas first with
  | case1 first ih =>
    have hfirst := getLast?_ne_of_cons (getLast?_ne_of_cons h)
    rw [List.cons_append, List.cons_append, joinCommas, ih hfirst]
    rfl
  | case2 c first hno ih =>
    rw [List.cons_append, joinCommas, ih (getLast?_ne_of_cons h)]
    · rfl
    · intro after hc he
      subst hc
      cases first with
      | nil => exact h rfl
      | cons d first =>
        obtain ⟨rfl, -⟩ := List.cons.inj he
        exact hno first rfl rfl
  | case3 => rfl

theorem joinCommas_append_of_notMem {first : List Char} (h : ',' ∉ first) (rest : List Char) :
    joinCommas (first ++ rest) = first ++ joinCommas rest := by
  have hlast : first.getLast? ≠ some ',' := fun hlast => h (List.mem_of_getLast? hlast)
  rw [joinCommas_append hlast, joinCommas_of_notMem h]

theorem comma_notMem_blanks {gap : List Char} (h : Text.Blanks gap) : ',' ∉ gap := by
  intro hmem
  cases (h ',' hmem).symm.trans Text.not_isBlank_comma

end Tokens

-- ---------------------------------------------------------------------------
-- Pieces
-- ---------------------------------------------------------------------------

open Text Tokens

/-- The piece of a line that a token is written as. -/
structure Piece (piece token : List Char) : Prop where
  joined : joinCommas piece = token
  solid : Solid token
  nonempty : token ≠ []
  closed : piece.getLast? ≠ some ','

/-- Pieces with blanks after each of them, and some between any two. -/
inductive Spaced : List (List Char) → List Char → Prop
  | last {piece after} (blanks : Blanks after) : Spaced [piece] (piece ++ after)
  | more {piece gap pieces rest} (blanks : Blanks gap) (apart : gap ≠ [])
      (spaced : Spaced pieces rest) : Spaced (piece :: pieces) (piece ++ gap ++ rest)

def LaidOut (pieces : List (List Char)) (line : List Char) : Prop :=
  ∃ before text, Blanks before ∧ Spaced pieces text ∧ line = before ++ text

variable {piece token text line : List Char} {pieces tokens : List (List Char)}

theorem Piece.of_plain (h : Plain piece) (hne : piece ≠ []) : Piece piece piece where
  joined := joinCommas_of_notMem h.comma_notMem
  solid := h.solid
  nonempty := hne
  closed hlast := h.comma_notMem (List.mem_of_getLast? hlast)

theorem Piece.ne_nil (h : Piece piece token) : piece ≠ [] := by
  rintro rfl
  exact h.nonempty h.joined.symm

theorem Piece.head?_eq (h : Piece piece token) : piece.head? = token.head? := by
  cases piece with
  | nil => exact absurd h.joined.symm h.nonempty
  | cons c piece =>
    obtain ⟨rest, hjoin⟩ := joinCommas_cons c piece
    rw [← h.joined, hjoin]
    rfl

theorem Piece.comma {first : List Char} (hfirst : Plain first) (h : Piece piece token) :
    Piece (first ++ ',' :: piece) (first ++ ',' :: token) where
  joined := by
    rw [joinCommas_append_of_notMem hfirst.comma_notMem, joinCommas, h.joined]
    intro rest _ hspace
    have hhead : token.head? = some ' ' := by rw [← h.head?_eq, hspace]; rfl
    have hblank := h.solid ' ' (List.mem_of_head? hhead)
    cases hblank.symm.trans isBlank_space
  solid := by
    intro c hc
    rcases List.mem_append.1 hc with hc | hc
    · exact hfirst.solid c hc
    · rcases List.mem_cons.1 hc with rfl | hc
      · exact not_isBlank_comma
      · exact h.solid c hc
  nonempty := by simp
  closed := by
    obtain ⟨c, piece, rfl⟩ := List.exists_cons_of_ne_nil h.ne_nil
    rw [List.getLast?_append_cons, List.getLast?_cons_cons]
    exact h.closed

theorem Piece.commaSpace {first : List Char} (hfirst : Plain first) (h : Piece piece token) :
    Piece (first ++ ',' :: ' ' :: piece) (first ++ ',' :: token) := by
  have hjoined := h.comma hfirst
  refine ⟨?_, hjoined.solid, hjoined.nonempty, ?_⟩
  · rw [joinCommas_append_of_notMem hfirst.comma_notMem, joinCommas, h.joined]
  · obtain ⟨c, piece, rfl⟩ := List.exists_cons_of_ne_nil h.ne_nil
    rw [List.getLast?_append_cons, List.getLast?_cons_cons, List.getLast?_cons_cons]
    exact h.closed

theorem words_of_spaced (h : Spaced pieces text) (hp : List.Forall₂ Piece pieces tokens) :
    words (joinCommas text) = tokens := by
  induction h generalizing tokens with
  | last hblanks =>
    obtain ⟨token, tokens, hpiece, hnil, rfl⟩ := List.forall₂_cons_left_iff.1 hp
    obtain rfl := List.forall₂_nil_left_iff.1 hnil
    rw [joinCommas_append hpiece.closed, hpiece.joined,
      joinCommas_of_notMem (comma_notMem_blanks hblanks)]
    exact words_solid_blanks hpiece.solid hpiece.nonempty hblanks
  | more hblanks hapart _ ih =>
    obtain ⟨token, tokens, hpiece, hrest, rfl⟩ := List.forall₂_cons_left_iff.1 hp
    rw [List.append_assoc, joinCommas_append hpiece.closed, hpiece.joined,
      joinCommas_append_of_notMem (comma_notMem_blanks hblanks),
      words_solid_append hpiece.solid hpiece.nonempty hblanks hapart, ih hrest]

theorem Spaced.head?_eq (h : Spaced (piece :: pieces) text) (hne : piece ≠ []) :
    text.head? = piece.head? := by
  obtain ⟨c, piece, rfl⟩ := List.exists_cons_of_ne_nil hne
  cases h with
  | last => rfl
  | more => rfl

theorem trimStart_blanks_append {before : List Char} {c : Char} (h : Blanks before)
    (hc : isBlank c = false) (rest : List Char) : trimStart (before ++ c :: rest) = c :: rest := by
  rw [trimStart, List.dropWhile_append_of_pos h, List.dropWhile_cons_of_neg (by simp [hc])]

/-- The tokens of a line are those that its pieces are written for. -/
theorem ofChars_of_laidOut (h : LaidOut pieces line)
    (hp : List.Forall₂ Piece pieces (token :: tokens)) (hhash : token.head? ≠ some '#') :
    Tokens.ofChars line = some (token :: tokens) := by
  obtain ⟨before, text, hbefore, hspaced, rfl⟩ := h
  have hwords := words_of_spaced hspaced hp
  obtain ⟨piece, pieces, hpiece, -, rfl⟩ := List.forall₂_cons_right_iff.1 hp
  obtain ⟨c, rest, htoken⟩ := List.exists_cons_of_ne_nil hpiece.nonempty
  have hhead : text.head? = some c := by
    rw [hspaced.head?_eq hpiece.ne_nil, hpiece.head?_eq, htoken]
    rfl
  obtain ⟨rest', rfl⟩ := List.head?_eq_some_iff.1 hhead
  have hc : isBlank c = false := hpiece.solid c (by simp [htoken])
  unfold Tokens.ofChars
  rw [trimStart_blanks_append hbefore hc]
  split
  · rename_i hnil
    cases hnil
  · rename_i hcons
    obtain ⟨rfl, -⟩ := List.cons.inj hcons
    exact absurd (by rw [htoken]; rfl) hhash
  · rename_i trimmed _ _
    rw [hwords]

theorem tokenize_of_laidOut {line : String} (h : LaidOut pieces line.toList)
    (hp : List.Forall₂ Piece pieces (token :: tokens)) (hhash : token.head? ≠ some '#') :
    tokenize line = some (String.ofList token :: tokens.map String.ofList) := by
  rw [tokenize, ofChars_of_laidOut h hp hhash]
  rfl

theorem exists_laidOut (piece : List Char) (pieces : List (List Char)) :
    ∃ line, LaidOut (piece :: pieces) line := by
  have hspaced : ∃ text, Spaced (piece :: pieces) text := by
    induction pieces generalizing piece with
    | nil => exact ⟨piece ++ [], .last (by simp [Blanks])⟩
    | cons second pieces ih =>
      obtain ⟨text, h⟩ := ih second
      exact ⟨_, .more (by simp [Blanks, isBlank_space]) (List.cons_ne_nil ' ' []) h⟩
  obtain ⟨text, h⟩ := hspaced
  exact ⟨text, [], text, by simp [Blanks], h, rfl⟩

end PadScript
