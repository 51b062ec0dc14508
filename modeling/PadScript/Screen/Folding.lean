import PadScript.Screen.Style

/-!
# Folding long lines

A line that does not fit in one row is folded between words if it can be, and
within a word that is longer than a row. The blanks at a fold stay at the end of
the row above as far as they fit there, and are not shown.
-/

namespace PadScript.Screen

/-- A line being folded. What has been read but not put into a row yet is a stretch
of blanks and, after it, a word. -/
structure Folding where
  width : Nat
  /-- Finished rows, the last one first. -/
  rows : List (List Glyph) := []
  row : List Glyph := []
  blanks : List Glyph := []
  word : List Glyph := []
  inWord : Bool := false

namespace Folding

def settle (folding : Folding) : Folding :=
  { folding with row := folding.row ++ folding.blanks ++ folding.word, blanks := [], word := [] }

def dropFitting (room : Nat) : List Glyph → List Glyph
  | [] => []
  | glyph :: rest =>
    if glyph.columns ≤ room then dropFitting (room - glyph.columns) rest else glyph :: rest

/-- Finishes the row. Blanks that would have fitted at its end are dropped. -/
def endRow (folding : Folding) : Folding :=
  { folding with
    rows := folding.row :: folding.rows
    row := []
    blanks := dropFitting (folding.width - columns folding.row) folding.blanks }

def reach (folding : Folding) : Nat :=
  columns folding.row + columns folding.blanks + columns folding.word

/-- Whether the blanks and the word belong to the row before the next glyph is taken:
a word ends here, or it has outgrown a row of its own. -/
def settles (folding : Folding) (glyph : Glyph) : Bool :=
  (folding.inWord && glyph.isBlank) ||
    (folding.row.isEmpty &&
      folding.width < columns folding.word + columns folding.blanks + glyph.columns)

def endsRow (folding : Folding) (glyph : Glyph) : Bool :=
  folding.width ≤ columns folding.row || (0 < glyph.columns && folding.width ≤ folding.reach)

def push (folding : Folding) (glyph : Glyph) : Folding :=
  if glyph.isBlank then { folding with blanks := folding.blanks ++ [glyph], inWord := false }
  else { folding with word := folding.word ++ [glyph], inWord := true }

/-- Takes one more glyph. A blank at a fold is dropped with those before it. -/
def take (folding : Folding) (glyph : Glyph) : Folding :=
  if folding.width < glyph.columns then folding
  else
    let folding := if folding.settles glyph then folding.settle else folding
    if folding.endsRow glyph then
      let folding := folding.endRow
      if glyph.isBlank && folding.blanks.isEmpty then folding else folding.push glyph
    else folding.push glyph

def atLeastOne : List (List Glyph) → List (List Glyph)
  | [] => [[]]
  | rows => rows

/-- The rows at the end of the line. A rest of blanks alone stands below an empty row. -/
def finish (folding : Folding) : List (List Glyph) :=
  let last := folding.settle.row
  let gap := folding.row.isEmpty && folding.word.isEmpty && !folding.blanks.isEmpty
  atLeastOne (folding.rows.reverse ++ (if gap then [[]] else []) ++
    (if last.isEmpty then [] else [last]))

end Folding

/-- The rows of a line folded to a width. There is always at least one. -/
def fold (width : Nat) (glyphs : List Glyph) : List (List Glyph) :=
  (glyphs.foldl Folding.take { width }).finish

theorem Folding.atLeastOne_ne_nil (rows : List (List Glyph)) : atLeastOne rows ≠ [] := by
  cases rows <;> simp [atLeastOne]

theorem fold_ne_nil (width : Nat) (glyphs : List Glyph) : fold width glyphs ≠ [] :=
  Folding.atLeastOne_ne_nil _

end PadScript.Screen
