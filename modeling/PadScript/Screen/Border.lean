import PadScript.Screen.Canvas

/-!
# Borders

Lines around an area, with a title in the upper one.
-/

namespace PadScript.Screen

/-- Lines at the left, at the right and below, and one above if there is a title. -/
structure Border where
  style : Style
  title : Option String := none

namespace Border

def inner (border : Border) (area : Area) : Area :=
  let top := if border.title.isSome then 1 else 0
  { x := area.x + min 1 area.width
    y := area.y + min top area.height
    width := area.width - 2
    height := area.height - top - 1 }

def strokes (canvas : Canvas) (cells : List (Nat × Nat)) (glyph : Glyph) : Canvas :=
  cells.foldl (fun canvas cell => canvas.put cell.1 cell.2 glyph) canvas

def draw (border : Border) (area : Area) (canvas : Canvas) : Canvas :=
  if area.isEmpty then canvas
  else
    let column (x : Nat) := (List.range area.height).map fun n => (x, area.y + n)
    let row (y : Nat) := (List.range area.width).map fun n => (area.x + n, y)
    let left := area.x
    let right := area.right - 1
    let top := area.y
    let bottom := area.bottom - 1
    let stroke (cells : List (Nat × Nat)) (text : String) (canvas : Canvas) :=
      strokes canvas cells ⟨text, 1, border.style, false⟩
    match border.title with
    | none =>
      canvas |> stroke (column left) "│" |> stroke (column right) "│" |> stroke (row bottom) "─"
        |> stroke [(right, bottom)] "┘" |> stroke [(left, bottom)] "└"
    | some title =>
      let canvas := canvas |> stroke (column left) "│" |> stroke (row top) "─"
        |> stroke (column right) "│" |> stroke (row bottom) "─"
        |> stroke [(right, bottom)] "┘" |> stroke [(right, top)] "┐"
        |> stroke [(left, bottom)] "└" |> stroke [(left, top)] "┌"
      canvas.drawGlyphs (left + 1) top (fit (area.width - 2) (Span.glyphs ⟨title, .plain⟩))

end Border

end PadScript.Screen
