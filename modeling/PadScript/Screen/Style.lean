import PadScript.Text.Blank
import PadScript.Text.Grapheme
import PadScript.Text.Width

/-!
# Styled text

A line is made of spans, each a text in one style. For drawing it is cut into
glyphs, which take columns of a row and are never divided.
-/

namespace PadScript.Screen

inductive Color
  | black
  | red
  | green
  | yellow
  | cyan
  | white
  | darkGray
  | lightBlue
  | lightGreen
  deriving DecidableEq, Repr

/-- A style; without a colour, what is underneath shows. -/
structure Style where
  foreground : Option Color := none
  background : Option Color := none
  bold : Bool := false
  deriving DecidableEq, Repr

namespace Style

def plain : Style := {}

def color (color : Color) : Style := { foreground := some color }

/-- `top` where it says something, otherwise `under`. -/
def onto (top under : Style) : Style where
  foreground := top.foreground <|> under.foreground
  background := top.background <|> under.background
  bold := top.bold || under.bold

@[simp] theorem plain_onto (under : Style) : plain.onto under = under := by
  simp [plain, onto]

end Style

structure Span where
  text : String
  style : Style := .plain
  deriving DecidableEq, Repr

abbrev Line := List Span

structure Glyph where
  text : String
  columns : Nat
  style : Style
  /-- A row may be folded here. -/
  isBlank : Bool
  deriving DecidableEq, Repr

/-- A blank without marks; no-break spaces are blank, but rows are not folded at them. -/
def foldsAt : List Char → Bool
  | [c] => (Text.isBlank c && c != '\xa0') || c == '\u200b'
  | _ => false

/-- The graphemes of a span. A line end within it is passed over. -/
def Span.glyphs (span : Span) : List Glyph :=
  let shown := (Text.graphemes span.text.toList).filter (· ∉ [['\n'], ['\r', '\n']])
  shown.map fun grapheme =>
    ⟨String.ofList grapheme, Text.graphemeColumns grapheme, span.style, foldsAt grapheme⟩

def Line.glyphs (line : Line) : List Glyph := line.flatMap Span.glyphs

def columns : List Glyph → Nat
  | [] => 0
  | glyph :: rest => glyph.columns + columns rest

@[simp] theorem columns_append (glyphs others : List Glyph) :
    columns (glyphs ++ others) = columns glyphs + columns others := by
  induction glyphs with
  | nil => simp [columns]
  | cons glyph rest ih => simp [columns, ih, Nat.add_assoc]

/-- The start of a line that fits in `width` columns of which some are used. Glyphs
wider than a whole row are passed over. -/
def fitAfter (width used : Nat) : List Glyph → List Glyph
  | [] => []
  | glyph :: rest =>
    if width < glyph.columns then fitAfter width used rest
    else if width < used + glyph.columns then []
    else glyph :: fitAfter width (used + glyph.columns) rest

def fit (width : Nat) (glyphs : List Glyph) : List Glyph := fitAfter width 0 glyphs

theorem columns_fitAfter_le {width : Nat} (used : Nat) (glyphs : List Glyph) (h : used ≤ width) :
    used + columns (fitAfter width used glyphs) ≤ width := by
  induction glyphs generalizing used with
  | nil => simpa [fitAfter, columns] using h
  | cons glyph rest ih =>
    rw [fitAfter]
    split
    · exact ih used h
    · split
      · simpa [columns] using h
      · rename_i hfit
        have := ih (used + glyph.columns) (by omega)
        simp only [columns]
        omega

theorem columns_fit_le (width : Nat) (glyphs : List Glyph) :
    columns (fit width glyphs) ≤ width := by
  simpa [fit] using columns_fitAfter_le 0 glyphs (Nat.zero_le width)

end PadScript.Screen
