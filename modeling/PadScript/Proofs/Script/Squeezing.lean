import PadScript.Proofs.Script.Calling
import PadScript.Proofs.Script.Seams

/-!
# How much blank there is

Between tokens any number of blanks is as good as one space. Behind a comma it is not: one space
belongs to the comma and two do not, so making each run of blanks a single space may join what was
apart. `ofChars_squeeze` says what comes of it for every line: a token that ends in a comma takes
in the token after it. So the tokens stay the same exactly when there is nothing or one space
between each comma and the next visible character (`squeezed_tokens`).
-/

namespace PadScript

open Text

-- ---------------------------------------------------------------------------
-- Squeezing
-- ---------------------------------------------------------------------------

namespace Text

variable {w gap rest s : List Char} {pieces : List (List Char)}

/-- Each run of blanks made one space, which stands where its last blank was. -/
def squeeze : List Char → List Char
  | [] => []
  | c :: rest =>
    if isBlank c then
      if rest.head?.any isBlank then squeeze rest else ' ' :: squeeze rest
    else c :: squeeze rest

theorem visible_squeeze (s : List Char) : visible (squeeze s) = visible s := by
  induction s with
  | nil => rfl
  | cons c s ih =>
    rw [squeeze]
    cases hc : isBlank c with
    | false => simp [visible_cons hc, ih]
    | true =>
      rw [visible_cons_of_isBlank hc, if_pos rfl]
      split
      · exact ih
      · rw [visible_cons_of_isBlank isBlank_space, ih]

theorem squeeze_solid_append (h : Solid w) (rest : List Char) :
    squeeze (w ++ rest) = w ++ squeeze rest := by
  induction w with
  | nil => rfl
  | cons c w ih =>
    obtain ⟨hc, hw⟩ := List.forall_mem_cons.1 h
    simp [squeeze, hc, ih hw]

theorem squeeze_blanks_append (h : Blanks gap) (hne : gap ≠ [])
    (hrest : rest.head?.any isBlank = false) : squeeze (gap ++ rest) = ' ' :: squeeze rest := by
  induction gap with
  | nil => exact absurd rfl hne
  | cons c gap ih =>
    obtain ⟨hc, hgap⟩ := List.forall_mem_cons.1 h
    cases gap with
    | nil => simp [squeeze, hc, hrest]
    | cons d gap =>
      have hd := hgap d List.mem_cons_self
      rw [List.cons_append, squeeze, ← ih hgap (List.cons_ne_nil _ _)]
      simp [hc, hd]

theorem squeeze_blanks (h : Blanks gap) : Blanks (squeeze gap) := by
  rw [← visible_eq_nil_iff, visible_squeeze]
  exact visible_eq_nil_iff.2 h

end Text

-- ---------------------------------------------------------------------------
-- Words of a line
-- ---------------------------------------------------------------------------

variable {pieces : List (List Char)} {s : List Char}

theorem Spaced.cons {w rest : List Char} (h : Spaced (w :: pieces) rest) (c : Char) :
    Spaced ((c :: w) :: pieces) (c :: rest) := by
  cases h with
  | last hblanks => exact .last hblanks
  | more hblanks hapart h => exact .more hblanks hapart h

theorem Spaced.exists_cons {rest : List Char} (h : Spaced pieces rest)
    (hsolid : ∀ piece ∈ pieces, Solid piece ∧ piece ≠ []) :
    ∃ c s, rest = c :: s ∧ isBlank c = false := by
  cases h with
  | last | more =>
    obtain ⟨hw, hne⟩ := hsolid _ List.mem_cons_self
    obtain ⟨c, w, rfl⟩ := List.exists_cons_of_ne_nil hne
    exact ⟨c, _, rfl, hw c List.mem_cons_self⟩

theorem blanks_or_laidOut (s : List Char) :
    Blanks s ∨ ∃ pieces, LaidOut pieces s ∧ ∀ piece ∈ pieces, Solid piece ∧ piece ≠ [] := by
  induction s with
  | nil => exact .inl (by simp [Blanks])
  | cons c s ih =>
    cases hc : isBlank c with
    | true =>
      -- one more blank in front
      rcases ih with hblank | ⟨pieces, ⟨before, text, hbefore, hspaced, rfl⟩, hsolid⟩
      · exact .inl (List.forall_mem_cons.2 ⟨hc, hblank⟩)
      · exact .inr ⟨pieces, ⟨c :: before, text, List.forall_mem_cons.2 ⟨hc, hbefore⟩, hspaced, rfl⟩,
          hsolid⟩
    | false =>
      have hword : Solid [c] ∧ [c] ≠ [] := by simpa [Solid] using hc
      right
      rcases ih with hblank | ⟨pieces, ⟨before, text, hbefore, hspaced, rfl⟩, hsolid⟩
      · exact ⟨[[c]], ⟨[], c :: s, by simp [Blanks], .last hblank, rfl⟩, by simpa using hword⟩
      · cases before with
        | cons b before =>
          -- a word of its own
          have hmore : Spaced ([c] :: pieces) ([c] ++ (b :: before) ++ text) :=
            .more hbefore (List.cons_ne_nil _ _) hspaced
          exact ⟨[c] :: pieces, ⟨[], _, by simp [Blanks], hmore, by simp⟩,
            List.forall_mem_cons.2 ⟨hword, hsolid⟩⟩
        | nil =>
          -- the first letter of the first word
          obtain ⟨w, pieces, rfl⟩ : ∃ w others, pieces = w :: others := by
            cases hspaced with
            | last | more => exact ⟨_, _, rfl⟩
          obtain ⟨⟨hw, -⟩, hothers⟩ := List.forall_mem_cons.1 hsolid
          refine ⟨(c :: w) :: pieces, ⟨[], _, by simp [Blanks], hspaced.cons c, rfl⟩, ?_⟩
          exact List.forall_mem_cons.2 ⟨⟨List.forall_mem_cons.2 ⟨hc, hw⟩, by simp⟩, hothers⟩

-- ---------------------------------------------------------------------------
-- Tokens that take in the next
-- ---------------------------------------------------------------------------

namespace Tokens

variable {w gap text : List Char} {tokens : List (List Char)}

def attach (token : List Char) : List (List Char) → List (List Char)
  | [] => [token]
  | next :: rest => (token ++ next) :: rest

/-- Each token that ends in a comma takes in the token after it. -/
def takeIn : List (List Char) → List (List Char)
  | [] => []
  | token :: rest =>
    if token.getLast? = some ',' then attach token (takeIn rest) else token :: takeIn rest

theorem takeIn_singleton (token : List Char) : takeIn [token] = [token] := by
  simp [takeIn, attach]

theorem length_attach_le (token : List Char) (tokens : List (List Char)) :
    (attach token tokens).length ≤ tokens.length + 1 := by
  cases tokens <;> simp [attach]

theorem length_takeIn_le (tokens : List (List Char)) : (takeIn tokens).length ≤ tokens.length := by
  induction tokens with
  | nil => simp [takeIn]
  | cons token rest ih =>
    have hattach := length_attach_le token (takeIn rest)
    rw [takeIn]
    split
    · simp only [List.length_cons]
      omega
    · simpa using ih

theorem takeIn_ne_nil (h : tokens ≠ []) : takeIn tokens ≠ [] := by
  obtain ⟨token, rest, rfl⟩ := List.exists_cons_of_ne_nil h
  rw [takeIn]
  split
  · cases takeIn rest <;> simp [attach]
  · exact List.cons_ne_nil _ _

theorem takeIn_eq_self_iff :
    takeIn tokens = tokens ↔ ∀ token ∈ tokens.dropLast, token.getLast? ≠ some ',' := by
  induction tokens with
  | nil => simp [takeIn]
  | cons token rest ih =>
    cases rest with
    | nil => simp [takeIn_singleton]
    | cons next rest =>
      rw [List.dropLast_cons_cons, List.forall_mem_cons, ← ih, takeIn]
      split
      · rename_i hcomma
        refine iff_of_false (fun h => ?_) (by simp [hcomma])
        -- one token less than before
        have hlength := congrArg List.length h
        have hle := length_takeIn_le (next :: rest)
        obtain ⟨first, others, htaken⟩ := List.exists_cons_of_ne_nil
          (takeIn_ne_nil (List.cons_ne_nil next rest))
        simp only [htaken, attach, List.length_cons] at hlength hle
        omega
      · rename_i hcomma
        simp [hcomma]

theorem takeIn_attach (h : ∀ token ∈ tokens, token ≠ []) (w : List Char) :
    takeIn (attach w tokens) = attach w (takeIn tokens) := by
  cases tokens with
  | nil => exact takeIn_singleton w
  | cons token rest =>
    have hlast : (w ++ token).getLast? = token.getLast? :=
      List.getLast?_append_of_ne_nil _ (h token List.mem_cons_self)
    simp only [attach, takeIn, hlast]
    split
    · cases takeIn rest <;> simp
    · rfl

theorem words_solid_attach {c : Char} (hw : Solid w) (hc : isBlank c = false) (s : List Char) :
    words (w ++ c :: s) = attach w (words (c :: s)) := by
  obtain ⟨v, back, htext, hv, hback⟩ := exists_solid_start (c :: s)
  have hne : v ≠ [] := by
    rintro rfl
    obtain rfl | ⟨d, back, rfl, hd⟩ := hback
    · cases htext
    · obtain ⟨rfl, -⟩ := List.cons.inj htext
      cases hc.symm.trans hd
  have hfirst := words_amid (.inl rfl) hback hv hne
  have hboth := words_amid (.inl rfl) hback (List.forall_mem_append.2 ⟨hw, hv⟩)
    (List.append_ne_nil_of_right_ne_nil w hne)
  rw [List.nil_append, words_nil, List.nil_append] at hfirst hboth
  rw [htext, ← List.append_assoc, hboth, hfirst]
  rfl

theorem words_joinCommas_last (hw : Solid w) (hne : w ≠ []) (hgap : Blanks gap) :
    words (joinCommas (w ++ gap)) = [w] := by
  obtain ⟨gap', hgap', hjoin⟩ := exists_joinCommas_append_blanks w hgap
  rw [hjoin, joinCommas_of_solid hw, words_solid_blanks hw hne hgap']

theorem words_joinCommas_amid {last c : Char} (hw : Solid w) (hlast : w.getLast? = some last)
    (hgap : Blanks gap) (hapart : gap ≠ []) (hc : isBlank c = false) (s : List Char) :
    words (joinCommas (w ++ (gap ++ c :: s))) =
      if last = ',' ∧ gap = [' '] then attach w (words (joinCommas (c :: s)))
      else w :: words (joinCommas (c :: s)) := by
  obtain ⟨init, rfl⟩ := List.getLast?_eq_some_iff.1 hlast
  obtain ⟨hinit, hl⟩ := List.forall_mem_append.1 hw
  have hspace {d : Char} (hd : isBlank d = false) : d ≠ ' ' := by
    rintro rfl
    cases hd.symm.trans isBlank_space
  have hjoin : joinCommas (init ++ [last] ++ (gap ++ c :: s)) =
      (init ++ [last]) ++ (gapAfter last gap ++ joinCommas (c :: s)) := by
    rw [List.append_assoc, List.singleton_append,
      joinCommas_append_cons init (hspace (hl last (by simp))),
      joinCommas_gapAfter hgap (by simpa using hspace hc), joinCommas_of_solid hinit]
    simp
  have hnone : gapAfter last gap = [] ↔ last = ',' ∧ gap = [' '] := by
    rw [gapAfter_eq_nil_iff, or_iff_right hapart]
  rw [hjoin]
  split
  · rename_i h
    obtain ⟨rest, hrest⟩ := joinCommas_cons c s
    rw [hnone.2 h, List.nil_append, hrest, words_solid_attach hw hc]
  · rename_i h
    exact words_solid_append hw (by simp) (gapAfter_blanks hgap) (mt hnone.1 h) _

theorem words_joinCommas_squeeze (h : Spaced pieces text)
    (hsolid : ∀ piece ∈ pieces, Solid piece ∧ piece ≠ []) :
    words (joinCommas (squeeze text)) = takeIn (words (joinCommas text)) := by
  induction h with
  | last hblanks =>
    obtain ⟨hw, hne⟩ := hsolid _ List.mem_cons_self
    rw [squeeze_solid_append hw, words_joinCommas_last hw hne (squeeze_blanks hblanks),
      words_joinCommas_last hw hne hblanks, takeIn_singleton]
  | @more w gap pieces rest hblanks hapart hspaced ih =>
    obtain ⟨⟨hw, hne⟩, hothers⟩ := List.forall_mem_cons.1 hsolid
    obtain ⟨last, hlast⟩ := Option.ne_none_iff_exists'.1 (mt List.getLast?_eq_none_iff.1 hne)
    obtain ⟨c, s, rfl, hc⟩ := hspaced.exists_cons hothers
    have hspaces : Blanks [' '] := by simp [Blanks, isBlank_space]
    have hnext : squeeze (c :: s) = c :: squeeze s := by simp [squeeze, hc]
    have hsqueeze : squeeze (w ++ gap ++ c :: s) = w ++ ([' '] ++ c :: squeeze s) := by
      rw [List.append_assoc, squeeze_solid_append hw,
        squeeze_blanks_append hblanks hapart (by simp [hc]), hnext]
      rfl
    rw [hsqueeze, List.append_assoc, words_joinCommas_amid hw hlast hspaces (by simp) hc,
      words_joinCommas_amid hw hlast hblanks hapart hc, ← hnext, ih hothers]
    by_cases hcomma : last = ','
    · by_cases hspace : gap = [' ']
      · simp only [hcomma, hspace, and_self, if_true]
        exact (takeIn_attach (fun token htoken => ne_nil_of_mem_words htoken) w).symm
      · simp [hcomma, hspace, takeIn, hlast]
    · simp [hcomma, takeIn, hlast]

theorem words_joinCommas_pad {before : List Char} (h : Blanks before) (s : List Char) :
    words (joinCommas (before ++ s)) = words (joinCommas s) := by
  rw [joinCommas_append_of_notMem (comma_notMem_blanks h), words_blanks_append h]

/-- The tokens of a squeezed line are those of the line, but for what commas take in. -/
theorem ofChars_squeeze (line : List Char) :
    ofChars (squeeze line) = (ofChars line).map takeIn := by
  have hskipped : Skipped (squeeze line) ↔ Skipped line := by
    rw [Skipped, Skipped, visible_squeeze]
  by_cases h : Skipped line
  · rw [ofChars_eq_none_iff.2 h, ofChars_eq_none_iff.2 (hskipped.2 h)]
    rfl
  · rw [ofChars_of_not_skipped h, ofChars_of_not_skipped (mt hskipped.1 h), Option.map_some]
    congr 1
    rcases blanks_or_laidOut line with
      hblank | ⟨pieces, ⟨before, text, hbefore, hspaced, rfl⟩, hsolid⟩
    · exact absurd (.inl (visible_eq_nil_iff.2 hblank)) h
    · rw [words_joinCommas_pad hbefore, ← words_joinCommas_squeeze hspaced hsolid]
      cases before with
      | nil => rfl
      | cons b before =>
        obtain ⟨c, s, rfl, hc⟩ := hspaced.exists_cons hsolid
        have hspaces : Blanks [' '] := by simp [Blanks, isBlank_space]
        rw [squeeze_blanks_append hbefore (List.cons_ne_nil _ _) (by simp [hc]),
          ← List.singleton_append, words_joinCommas_pad hspaces]

-- ---------------------------------------------------------------------------
-- Lines that stay the same
-- ---------------------------------------------------------------------------

/-- Between a comma and the visible character after it there is nothing or one space. -/
def CommasClosed (line : List Char) : Prop :=
  ∀ left gap c right, line = left ++ ',' :: (gap ++ c :: right) → Blanks gap →
    isBlank c = false → gap = [] ∨ gap = [' ']

theorem exists_of_not_closed {line : List Char} (h : ¬ CommasClosed line) :
    ∃ token ∈ (words (joinCommas line)).dropLast, token.getLast? = some ',' := by
  simp only [CommasClosed, not_forall, not_or] at h
  obtain ⟨left, gap, c, right, rfl, hgap, hc, hempty, hspace⟩ := h
  obtain ⟨right', hjoin⟩ := joinCommas_neighbours not_isBlank_comma hc hgap left right
  have hopen : gapAfter ',' gap ≠ [] := fun hnil => by
    rcases gapAfter_eq_nil_iff.1 hnil with hnil | ⟨-, hnil⟩
    · exact hempty hnil
    · exact hspace hnil
  obtain ⟨b, rest, hrest⟩ := List.exists_cons_of_ne_nil hopen
  obtain ⟨hb, hblanks⟩ := List.forall_mem_cons.1 (hrest ▸ gapAfter_blanks (c := ',') hgap)
  obtain ⟨front, u, hleft, hfront, hu⟩ := exists_solid_end (joinCommas left)
  have hword : words (joinCommas left ++ [',']) = words front ++ [u ++ [',']] := by
    have hsolid : Solid (u ++ [',']) :=
      List.forall_mem_append.2 ⟨hu, by simp [not_isBlank_comma]⟩
    simpa [hleft] using words_amid hfront (.inl rfl) hsolid (by simp)
  have hlater : words (rest ++ c :: right') ≠ [] := by
    rw [words_blanks_append hblanks]
    exact words_cons_ne_nil hc
  have hwords : words (joinCommas (left ++ ',' :: (gap ++ c :: right))) =
      words front ++ [u ++ [',']] ++ words (rest ++ c :: right') := by
    rw [← hword, ← words_append_cons hb, hjoin, hrest]
    simp
  refine ⟨u ++ [','], ?_, by simp⟩
  rw [hwords, List.dropLast_append_of_ne_nil hlater]
  simp

theorem closed_of_ofChars {line : List Char} {tokens : List (List Char)}
    (h : ofChars line = some tokens) (hclosed : CommasClosed line) :
    ∀ token ∈ tokens.dropLast, token.getLast? ≠ some ',' := by
  intro token htoken hcomma
  have hcut := cutAt_of_ofChars h
  obtain ⟨u, rfl⟩ := List.getLast?_eq_some_iff.1 hcomma
  obtain ⟨earlier, later, hearlier⟩ := List.append_of_mem htoken
  obtain ⟨next, more, hmore⟩ :
      ∃ next more, later ++ [tokens.getLast hcut.nonempty] = next :: more :=
    List.exists_cons_of_ne_nil (by simp)
  have htokens : tokens = (earlier ++ [u ++ [',']]) ++ next :: more := by
    have hwhole := (List.dropLast_concat_getLast hcut.nonempty).symm
    rw [hearlier] at hwhole
    simpa [← hmore] using hwhole
  obtain ⟨hne, hnext⟩ := hcut.each next (by simp [htokens])
  obtain ⟨d, v, rfl⟩ := List.exists_cons_of_ne_nil hne
  have hvisible : visible line = (earlier.flatten ++ u) ++ ',' :: d :: (v ++ more.flatten) := by
    rw [← hcut.flatten, htokens]
    simp
  obtain ⟨left, gap, right, rfl, -, hgap, htogether⟩ := hcut.cuts _ _ _ _ hvisible
  have hapart : ¬ Together tokens (earlier.flatten ++ u) ',' d := by
    rw [htokens]
    exact not_together_append (by simp)
  refine hapart (htogether.2 ?_)
  simpa using hclosed left gap d right rfl hgap (hnext d List.mem_cons_self)

theorem ofChars_squeeze_eq_iff {line : List Char} :
    ofChars (squeeze line) = ofChars line ↔ Skipped line ∨ CommasClosed line := by
  rw [ofChars_squeeze]
  by_cases h : Skipped line
  · simp [ofChars_eq_none_iff.2 h, h]
  · have hline := ofChars_of_not_skipped h
    rw [hline, Option.map_some, Option.some.injEq, takeIn_eq_self_iff, or_iff_right h]
    constructor
    · intro hself
      by_contra hopen
      obtain ⟨token, htoken, hcomma⟩ := exists_of_not_closed hopen
      exact hself token htoken hcomma
    · exact closed_of_ofChars hline

end Tokens

open Tokens

def squeezed (line : String) : String := String.ofList (squeeze line.toList)

/-- Where a line is squeezed, a token that ends in a comma takes in the one after it, and nothing
else happens to its tokens. So they are the same if, and only if, there are no tokens or there is
nothing but one space, or nothing at all, between each comma and the visible character after it. -/
theorem squeezed_tokens (line : String) :
    (tokenize (squeezed line) = (tokenize line).map fun tokens =>
      (takeIn (tokens.map String.toList)).map String.ofList) ∧
    (tokenize (squeezed line) = tokenize line ↔
      Skipped line.toList ∨ CommasClosed line.toList) := by
  have hmap (pieces : List (List Char)) :
      (pieces.map String.ofList).map String.toList = pieces := by
    simp [Function.comp_def]
  have hinj : Function.Injective (List.map String.ofList) :=
    List.map_injective_iff.2 fun _ _ h => String.ofList_injective h
  rw [tokenize, tokenize, squeezed, String.toList_ofList]
  constructor
  · rw [ofChars_squeeze, Option.map_map, Option.map_map]
    congr 1
    funext pieces
    simp [hmap]
  · rw [← ofChars_squeeze_eq_iff]
    exact (Option.map_injective hinj).eq_iff

/-- Two spaces after a comma are not one. -/
theorem squeezed_tokens_apart :
    tokenize "Press A,  B" = some ["Press", "A,", "B"] ∧
    squeezed "Press A,  B" = "Press A, B" ∧ tokenize "Press A, B" = some ["Press", "A,B"] ∧
    ¬ ∀ line, tokenize (squeezed line) = tokenize line := by
  have hapart : tokenize "Press A,  B" = some ["Press", "A,", "B"] := by decide +kernel
  have hjoined : tokenize "Press A, B" = some ["Press", "A,B"] := by decide +kernel
  have hsqueezed : squeezed "Press A,  B" = "Press A, B" := by decide +kernel
  refine ⟨hapart, hsqueezed, hjoined, fun h => ?_⟩
  have hsame := h "Press A,  B"
  rw [hsqueezed, hjoined, hapart] at hsame
  simp at hsame

end PadScript
