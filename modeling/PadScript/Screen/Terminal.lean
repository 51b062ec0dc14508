import PadScript.Screen.Canvas

/-!
# The terminal

A terminal keeps what was drawn last, and a cell is sent to it only if it differs
from then. A wide text covers the cells after it, which are not sent; those that
it covered before are sent anew. What covers the end of a row goes on in the next
one. Where everything is narrow, what is shown is what was drawn.
-/

namespace PadScript.Screen

structure Wake where
  /-- Cells to come that are covered by the text before. -/
  covered : Nat := 0
  /-- Cells to come that are sent even if they have not changed. -/
  stale : Nat := 0
  deriving DecidableEq, Repr

namespace Wake

def sends (wake : Wake) (new old : Cell) : Bool :=
  wake.covered = 0 && (new ≠ old || 0 < wake.stale)

def after (wake : Wake) (new old : Cell) : Wake where
  covered := new.columns - 1
  stale := max (max new.columns old.columns) wake.stale - 1

/-- The cells of a row as they are shown after a drawing, from the new ones, the old
ones and those shown before. -/
def row (wake : Wake) : List (Cell × Cell × Cell) → List Cell × Wake
  | [] => ([], wake)
  | (new, old, shown) :: rest =>
    let (cells, last) := (wake.after new old).row rest
    ((if wake.sends new old then new else shown) :: cells, last)

def rows (wake : Wake) : List (List (Cell × Cell × Cell)) → List (List Cell)
  | [] => []
  | cells :: rest =>
    let (row, wake) := wake.row cells
    row :: wake.rows rest

def Plain (cell : Cell × Cell × Cell) : Prop :=
  cell.1.columns ≤ 1 ∧ cell.2.1.columns ≤ 1 ∧ cell.2.2 = cell.2.1

theorem row_of_plain {cells : List (Cell × Cell × Cell)} (h : ∀ cell ∈ cells, Plain cell) :
    row {} cells = (cells.map (·.1), {}) := by
  induction cells with
  | nil => rfl
  | cons cell rest ih =>
    obtain ⟨new, old, shown⟩ := cell
    obtain ⟨hnew, hold, hshown⟩ := h _ (List.mem_cons_self ..)
    have hwake : after {} new old = {} := by
      simp only [after, Wake.mk.injEq] at *
      omega
    rw [row, hwake, ih fun cell hcell => h cell (List.mem_cons_of_mem _ hcell)]
    by_cases heq : new = old <;> simp_all [sends]

theorem rows_of_plain {cells : List (List (Cell × Cell × Cell))}
    (h : ∀ row ∈ cells, ∀ cell ∈ row, Plain cell) :
    rows {} cells = cells.map (·.map (·.1)) := by
  induction cells with
  | nil => rfl
  | cons row rest ih =>
    simp [rows, row_of_plain (h row (List.mem_cons_self ..)),
      ih fun row hrow => h row (List.mem_cons_of_mem _ hrow)]

end Wake

structure Terminal where
  width : Nat
  height : Nat
  /-- What was drawn last. -/
  drawn : Canvas
  shown : Canvas

namespace Terminal

def blank (width height : Nat) : Terminal :=
  ⟨width, height, .blank width height, .blank width height⟩

def draw (terminal : Terminal) (canvas : Canvas) : Terminal :=
  let rows := canvas.rows.toList.zip (terminal.drawn.rows.toList.zip terminal.shown.rows.toList)
  let cells := rows.map fun (new, old, shown) => new.toList.zip (old.toList.zip shown.toList)
  { terminal with
    drawn := canvas
    shown := ⟨((Wake.rows {} cells).map (·.toArray)).toArray⟩ }

end Terminal

end PadScript.Screen
