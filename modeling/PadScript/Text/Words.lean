import PadScript.Text.Blank

/-!
# Words and lines of a text

`words` cuts at blanks, `lines` at line ends, `cut` at the first few separators.
No word is empty or holds a blank.
-/

namespace PadScript.Text

theorem forall_of_mem_splitOnP {p : Char → Bool} {s piece : List Char} (h : piece ∈ s.splitOnP p) :
    ∀ c ∈ piece, p c = false := by
  induction s generalizing piece with
  | nil => simp_all
  | cons c rest ih =>
    rw [List.splitOnP_cons_eq_if_modifyHead] at h
    split at h
    · rcases List.mem_cons.1 h with rfl | h
      · simp
      · exact ih h
    · rename_i hc
      match e : rest.splitOnP p with
      | [] => simp [e] at h
      | first :: others =>
        rw [e, List.modifyHead_cons, List.mem_cons] at h
        rcases h with rfl | h
        · intro d hd
          rcases List.mem_cons.1 hd with rfl | hd
          · simpa using hc
          · exact ih (by simp [e]) d hd
        · exact ih (by simp [e, h])

/-- The maximal stretches without a blank. -/
def words (s : List Char) : List (List Char) := (s.splitOnP isBlank).filter (!·.isEmpty)

@[simp] theorem words_nil : words [] = [] := by simp [words]

theorem ne_nil_of_mem_words {s w : List Char} (h : w ∈ words s) : w ≠ [] := by
  simpa using (List.mem_filter.1 h).2

theorem not_isBlank_of_mem_words {s w : List Char} (h : w ∈ words s) : ∀ c ∈ w, isBlank c = false :=
  forall_of_mem_splitOnP (List.mem_filter.1 h).1

def trimStart (s : List Char) : List Char := s.dropWhile isBlank

def trimEnd (s : List Char) : List Char := (s.reverse.dropWhile isBlank).reverse

/-- One carriage return at the end of a line belongs to the line end. -/
def dropReturn (line : List Char) : List Char :=
  if line.getLast? = some '\r' then line.dropLast else line

/-- Lines end at a line feed, with one carriage return before it if there is one.
What follows the last line feed is a line of its own unless it is empty, and
keeps its carriage returns. -/
def lines (s : List Char) : List (List Char) :=
  let pieces := s.splitOnP (· == '\n')
  let last := pieces.getLast?.getD []
  pieces.dropLast.map dropReturn ++ if last.isEmpty then [] else [last]

/-- Cuts a text at the first `cuts` separators. -/
def cut (separator : Char) : Nat → List Char → List (List Char)
  | 0, text => [text]
  | cuts + 1, text =>
    match text.dropWhile (· != separator) with
    | [] => [text]
    | _ :: rest => text.takeWhile (· != separator) :: cut separator cuts rest

end PadScript.Text

namespace PadScript

def linesOf (text : String) : List String := (Text.lines text.toList).map String.ofList

end PadScript
