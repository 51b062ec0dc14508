import PadScript.Screen.Border

/-!
# The question before quitting

A box in the middle of the screen with a message and two answers, one of which is
selected.
-/

namespace PadScript.Screen

namespace Area

/-- An area has fewer than 2 ^ 16 cells; a larger one shrinks to about its shape. -/
def limited (area : Area) : Area :=
  if area.width * area.height ≤ 65535 then area
  else
    let ratio := Float.ofNat area.width / Float.ofNat area.height
    let height := (65535.0 / ratio).sqrt
    { area with width := (height * ratio).toUInt16.toNat, height := height.toUInt16.toNat }

def centered (area : Area) (width height : Nat) : Area :=
  limited
    { x := area.x + (area.width - width) / 2
      y := area.y + (area.height - height) / 2
      width := min width area.width
      height := min height area.height }

end Area

structure Dialog where
  message : String
  yes : Bool := false
  deriving DecidableEq, Repr

namespace Dialog

def toggle (dialog : Dialog) : Dialog := { dialog with yes := !dialog.yes }

def border : Border := ⟨.color .yellow, some " Quit "⟩

/-- A message below an empty row, and answers below another. -/
def rows : Nat := 4

/-- Wide enough for the message, and at least 30 columns. Columns are counted in a
word of 16 bits. -/
def width (dialog : Dialog) : Nat := max 30 (UInt16.ofNat dialog.message.length + 6).toNat

def height : Nat := rows + 2

def answers (dialog : Dialog) : Line :=
  let selected (color : Color) : Style :=
    { foreground := some .black, background := some color, bold := true }
  let other : Style := .color .darkGray
  [⟨"  [Yes]  ", if dialog.yes then selected .green else other⟩, ⟨"   ", .plain⟩,
    ⟨"  [No]  ", if dialog.yes then other else selected .red⟩]

def draw (dialog : Dialog) (screen : Area) (canvas : Canvas) : Canvas :=
  let area := screen.centered dialog.width height
  let inner := border.inner area
  let framed := border.draw area (canvas.clear area)
  let asked := framed.drawCentered (inner.rowOf rows 1) [⟨dialog.message, .color .white⟩]
  asked.drawCentered (inner.rowOf rows 3) dialog.answers

end Dialog

end PadScript.Screen
