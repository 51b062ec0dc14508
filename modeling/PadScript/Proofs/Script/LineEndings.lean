import PadScript.Proofs.Script.Prefixes
import PadScript.Proofs.Script.Seams

/-!
# Line endings

A script is what the tokens of its lines make it, so blanks at the ends of its lines do not count,
and a carriage return is a blank. Nor does a last line count that is empty. The lines of a text may
therefore be had by cutting it at the line feeds and nothing else (`ofText_eq`), and a text reads
the same with carriage returns put before its line feeds, and with one more line feed at its end
(`endings_alike`).
-/

namespace PadScript

-- ---------------------------------------------------------------------------
-- Lines with the same tokens
-- ---------------------------------------------------------------------------

namespace Script

variable {registry : Registry} {source others : List String} {text : String}

theorem addLines_congr (h : List.Forall₂ (fun a b => tokenize a = tokenize b) source others)
    (line : Nat) (sofar : ScriptDraft) :
    (source.zipIdx line).foldlM (ScriptDraft.addLine registry) sofar =
      (others.zipIdx line).foldlM (ScriptDraft.addLine registry) sofar := by
  induction h generalizing line sofar with
  | nil => rfl
  | cons hline _ ih =>
    simp only [List.zipIdx_cons, List.foldlM_cons, ScriptDraft.addLine, hline, ih]

theorem ofLines_congr (h : List.Forall₂ (fun a b => tokenize a = tokenize b) source others) :
    ofLines registry source = ofLines registry others := by
  rw [ofLines, ofLines, addLines_congr h]

theorem ofLines_concat_blank (h : tokenize text = none) :
    ofLines registry (source ++ [text]) = ofLines registry source := by
  have hread : ScriptDraft.ofLines registry (source ++ [text]) =
      ScriptDraft.ofLines registry source := by
    rw [ScriptDraft.ofLines_concat]
    cases ScriptDraft.ofLines registry source with
    | error error => rfl
    | ok read => exact (ScriptDraft.addLine_blank h).2 rfl
  rw [ScriptDraft.ofLines, ScriptDraft.ofLines] at hread
  rw [ofLines, ofLines, hread]

end Script

-- ---------------------------------------------------------------------------
-- Texts cut at their line feeds
-- ---------------------------------------------------------------------------

namespace Text

def stretches (s : List Char) : List (List Char) := s.splitOnP (· == '\n')

theorem stretches_ne_nil (s : List Char) : stretches s ≠ [] := List.splitOnP_ne_nil _ s

theorem stretches_concat_feed (s : List Char) : stretches (s ++ ['\n']) = stretches s ++ [[]] := by
  rw [stretches, List.splitOnP_append_cons _ _ (by rfl)]
  rfl

theorem stretches_feed (s : List Char) : stretches ('\n' :: s) = [] :: stretches s := by
  rw [stretches, List.splitOnP_cons_eq_if_modifyHead, if_pos (by rfl)]
  rfl

theorem stretches_cons {c : Char} (hc : c ≠ '\n') (s : List Char) :
    stretches (c :: s) = (stretches s).modifyHead (List.cons c) := by
  rw [stretches, List.splitOnP_cons_eq_if_modifyHead, if_neg (by simpa using hc)]
  rfl

/-- Carriage returns have been put before some line feeds of the text. -/
inductive Returned : List Char → List Char → Prop
  | nil : Returned [] []
  | cons {s t} (c : Char) (h : Returned s t) : Returned (c :: s) (c :: t)
  | feed {s t} (h : Returned s t) : Returned ('\n' :: s) ('\r' :: '\n' :: t)

theorem Returned.stretches {s t : List Char} (h : Returned s t) :
    List.Forall₂ (fun a b => b = a ∨ b = a ++ ['\r']) (stretches s) (stretches t) := by
  induction h with
  | nil => exact .cons (.inl rfl) .nil
  | feed h ih =>
    rw [stretches_feed, stretches_cons (c := '\r') (by decide), stretches_feed]
    exact .cons (.inr rfl) ih
  | @cons s t c h ih =>
    by_cases hc : c = '\n'
    · rw [hc, stretches_feed, stretches_feed]
      exact .cons (.inl rfl) ih
    · rw [stretches_cons hc, stretches_cons hc]
      generalize Text.stretches s = pieces at ih
      generalize Text.stretches t = others at ih
      cases ih with
      | nil => exact .nil
      | cons hfirst hrest =>
        refine .cons ?_ hrest
        rcases hfirst with rfl | rfl
        · exact .inl rfl
        · exact .inr rfl

def withReturns (s : List Char) : List Char :=
  s.flatMap fun c => if c = '\n' then ['\r', '\n'] else [c]

theorem returned_withReturns (s : List Char) : Returned s (withReturns s) := by
  induction s with
  | nil => exact .nil
  | cons c s ih =>
    by_cases hc : c = '\n'
    · subst hc
      exact .feed ih
    · have htext : withReturns (c :: s) = c :: withReturns s := by simp [withReturns, hc]
      rw [htext]
      exact .cons c ih

end Text

open Text Tokens

theorem tokenize_append_blanks {gap : List Char} (hgap : Blanks gap) (line : List Char) :
    tokenize (String.ofList (line ++ gap)) = tokenize (String.ofList line) := by
  have hnone : Blanks [] := by simp [Blanks]
  have hpad := ofChars_pad hnone hgap line
  rw [List.nil_append] at hpad
  rw [tokenize, tokenize, String.toList_ofList, String.toList_ofList, hpad]

theorem blanks_return : Blanks ['\r'] := by decide

theorem tokenize_dropReturn (line : List Char) :
    tokenize (String.ofList (dropReturn line)) = tokenize (String.ofList line) := by
  unfold dropReturn
  split
  · rename_i hlast
    obtain ⟨init, rfl⟩ := List.getLast?_eq_some_iff.1 hlast
    rw [List.dropLast_concat, tokenize_append_blanks blanks_return]
  · rfl

namespace Script

variable (registry : Registry)

theorem forall₂_dropReturn (pieces : List (List Char)) :
    List.Forall₂ (fun a b => tokenize a = tokenize b)
      ((pieces.map dropReturn).map String.ofList) (pieces.map String.ofList) := by
  induction pieces with
  | nil => exact .nil
  | cons piece pieces ih => exact .cons (tokenize_dropReturn piece) ih

theorem ofText_eq (text : String) :
    ofText registry text = ofLines registry ((stretches text.toList).map String.ofList) := by
  have hne := stretches_ne_nil text.toList
  rw [← List.dropLast_concat_getLast hne, List.map_append, List.map_singleton]
  have hlines : linesOf text = ((stretches text.toList).dropLast.map dropReturn ++
      if ((stretches text.toList).getLast hne).isEmpty then []
      else [(stretches text.toList).getLast hne]).map String.ofList := by
    have hlast :
        (stretches text.toList).getLast?.getD [] = (stretches text.toList).getLast hne := by
      rw [List.getLast?_eq_some_getLast hne, Option.getD_some]
    rw [linesOf, lines, ← hlast]
    rfl
  rw [ofText, hlines, List.map_append]
  have hdropped := forall₂_dropReturn (stretches text.toList).dropLast
  split
  · rename_i hempty
    rw [List.isEmpty_iff.1 hempty, List.map_nil, List.append_nil, ofLines_concat_blank rfl]
    exact ofLines_congr hdropped
  · exact ofLines_congr (List.rel_append hdropped (.cons rfl .nil))

theorem ofText_of_returned {text other : String} (h : Returned text.toList other.toList) :
    ofText registry other = ofText registry text := by
  rw [ofText_eq, ofText_eq]
  refine (ofLines_congr ?_).symm
  rw [List.forall₂_map_left_iff, List.forall₂_map_right_iff]
  refine h.stretches.imp ?_
  rintro a b (rfl | rfl)
  · rfl
  · exact (tokenize_append_blanks blanks_return a).symm

end Script

/-- Reading a text comes to the same, error or script, with a carriage return put before each of
its line feeds, whatever stood there, and with one more line feed after it. -/
theorem endings_alike (registry : Registry) (text : String) :
    Script.ofText registry (String.ofList (withReturns text.toList)) =
      Script.ofText registry text ∧
    Script.ofText registry (text ++ "\n") = Script.ofText registry text := by
  constructor
  · apply Script.ofText_of_returned
    rw [String.toList_ofList]
    exact returned_withReturns text.toList
  · have hfeed : (text ++ "\n").toList = text.toList ++ ['\n'] := String.toList_append
    rw [Script.ofText_eq, Script.ofText_eq, hfeed, stretches_concat_feed, List.map_append]
    exact Script.ofLines_concat_blank rfl

end PadScript
