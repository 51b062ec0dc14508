import PadScript.Screen.Style
import PadScript.Text.Words

/-!
# The canvas

Rows of cells, each with a text and a style. The text of a cell may be wider than
the cell. What is drawn outside is lost, and drawing never changes the size.
-/

namespace PadScript.Screen

structure Cell where
  text : String := " "
  columns : Nat := 1
  style : Style := .plain
  deriving DecidableEq, Repr, Inhabited

structure Area where
  x : Nat
  y : Nat
  width : Nat
  height : Nat
  deriving DecidableEq, Repr

namespace Area

def right (area : Area) : Nat := area.x + area.width

def bottom (area : Area) : Nat := area.y + area.height

def isEmpty (area : Area) : Bool := area.width == 0 || area.height == 0

def contains (area : Area) (x y : Nat) : Bool :=
  area.x ≤ x && x < area.right && area.y ≤ y && y < area.bottom

/-- The row with a given number, an empty area below the last one. -/
def row (area : Area) (n : Nat) : Area where
  x := area.x
  y := min (area.y + n) area.bottom
  width := area.width
  height := if n < area.height then 1 else 0

/-- The row with a given number of an area meant for `rows` of them. If there are not
so many, the ends of all of them are moved up in proportion, to the nearest whole
cell, and some have no height. -/
def rowOf (area : Area) (rows n : Nat) : Area :=
  let edge (n : Nat) := if rows ≤ area.height then n else (2 * n * area.height + rows) / (2 * rows)
  { area with y := area.y + edge n, height := edge (n + 1) - edge n }

def below (area : Area) (n : Nat) : Area where
  x := area.x
  y := min (area.y + n) area.bottom
  width := area.width
  height := area.height - n

/-- The area cut in two columns, of which the left one has so many percent of the
width, to the nearest whole cell. -/
def splitColumns (area : Area) (percent : Nat) : Area × Area :=
  let left := (2 * area.width * percent + 100) / 200
  ({ area with width := left }, { area with x := area.x + left, width := area.width - left })

end Area

structure Canvas where
  rows : Array (Array Cell)

namespace Canvas

def blank (width height : Nat) : Canvas := ⟨.replicate height (.replicate width {})⟩

def get? (canvas : Canvas) (x y : Nat) : Option Cell := canvas.rows[y]?.bind (·[x]?)

def texts (canvas : Canvas) : List String :=
  canvas.rows.toList.map fun row =>
    String.ofList (Text.trimEnd (row.toList.flatMap (·.text.toList)))

/-- Where cells of one style begin and end in each row, and the style, if it says
anything. -/
def styleRuns (canvas : Canvas) : List (List (Nat × Nat × Style)) :=
  let place (run : List (Cell × Nat)) : Option (Nat × Nat × Style) := do
    let (cell, x) ← run.head?
    if cell.style = .plain then none else some (x, x + run.length, cell.style)
  canvas.rows.toList.map fun row =>
    (row.toList.zipIdx.splitBy (·.1.style == ·.1.style)).filterMap place

def modify (canvas : Canvas) (x y : Nat) (change : Cell → Cell) : Canvas :=
  ⟨canvas.rows.modify y (·.modify x change)⟩

def put (canvas : Canvas) (x y : Nat) (glyph : Glyph) : Canvas :=
  canvas.modify x y fun cell => ⟨glyph.text, glyph.columns, glyph.style.onto cell.style⟩

def clear (canvas : Canvas) (area : Area) : Canvas :=
  ⟨canvas.rows.mapIdx fun y row => row.mapIdx fun x cell => if area.contains x y then {} else cell⟩

/-- Draws glyphs side by side. Those without columns are not drawn. -/
def drawGlyphs (canvas : Canvas) (x y : Nat) : List Glyph → Canvas
  | [] => canvas
  | glyph :: rest =>
    let canvas := if glyph.columns = 0 then canvas else canvas.put x y glyph
    canvas.drawGlyphs (x + glyph.columns) y rest

def drawRows (canvas : Canvas) (area : Area) (rows : List (List Glyph)) : Canvas :=
  if area.isEmpty then canvas
  else
    ((rows.take area.height).zipIdx area.y).foldl
      (fun canvas row => canvas.drawGlyphs area.x row.2 row.1) canvas

def drawCentered (canvas : Canvas) (area : Area) (line : Line) : Canvas :=
  let row := fit area.width line.glyphs
  if area.isEmpty then canvas
  else canvas.drawGlyphs (area.x + (area.width / 2 - columns row / 2)) area.y row

theorem get?_modify (canvas : Canvas) (x y x' y' : Nat) (change : Cell → Cell) :
    (canvas.modify x y change).get? x' y' =
      if x = x' ∧ y = y' then (canvas.get? x' y').map change else canvas.get? x' y' := by
  simp only [get?, modify, Array.getElem?_modify]
  by_cases hy : y = y'
  · subst hy
    cases canvas.rows[y]? with
    | none => simp
    | some row =>
      by_cases hx : x = x' <;> simp [hx, Array.getElem?_modify]
  · simp [hy]

end Canvas

end PadScript.Screen
