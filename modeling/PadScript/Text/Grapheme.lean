import PadScript.Text.Joint

/-!
# Graphemes

What a reader takes for one character may be several: a letter with its marks, a
flag, a family. A text is cut into such graphemes; nothing is lost by it, and no
grapheme is empty.
-/

namespace PadScript.Text

/-- Cuts a text of which the start of a grapheme has been read: its characters and
their joints, the last ones first. -/
def graphemesFrom (read : List Char) (joints : List Joint) : List Char → List (List Char)
  | [] => [read.reverse]
  | c :: rest =>
    let joint := Joint.ofChar c
    if Joint.joins joints joint then graphemesFrom (c :: read) (joint :: joints) rest
    else read.reverse :: graphemesFrom [c] [joint] rest

def graphemes : List Char → List (List Char)
  | [] => []
  | c :: rest => graphemesFrom [c] [Joint.ofChar c] rest

/-- Two flags, and a letter with its mark. -/
example : graphemes ['🇯', '🇵', '🇫', '🇷', 'e', '\u0301'] =
    [['🇯', '🇵'], ['🇫', '🇷'], ['e', '\u0301']] := by decide +kernel

theorem flatten_graphemesFrom (read : List Char) (joints : List Joint) (text : List Char) :
    (graphemesFrom read joints text).flatten = read.reverse ++ text := by
  induction text generalizing read joints with
  | nil => simp [graphemesFrom]
  | cons c rest ih =>
    rw [graphemesFrom]
    split <;> simp [ih]

theorem ne_nil_of_mem_graphemesFrom {read : List Char} {joints : List Joint}
    {text grapheme : List Char} (h : grapheme ∈ graphemesFrom read joints text)
    (hread : read ≠ []) : grapheme ≠ [] := by
  induction text generalizing read joints with
  | nil => simp_all [graphemesFrom]
  | cons c rest ih =>
    rw [graphemesFrom] at h
    split at h
    · exact ih h (by simp)
    · rcases List.mem_cons.1 h with rfl | h
      · simpa using hread
      · exact ih h (by simp)

theorem flatten_graphemes (text : List Char) : (graphemes text).flatten = text := by
  cases text <;> simp [graphemes, flatten_graphemesFrom]

theorem ne_nil_of_mem_graphemes {text grapheme : List Char} (h : grapheme ∈ graphemes text) :
    grapheme ≠ [] := by
  cases text with
  | nil => simp [graphemes] at h
  | cons c rest => exact ne_nil_of_mem_graphemesFrom h (by simp)

end PadScript.Text
