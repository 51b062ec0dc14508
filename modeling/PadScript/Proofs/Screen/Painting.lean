import PadScript.App

/-!
# What stands on a canvas

Rows of glyphs leave in each cell of their area the glyph that begins there
(`Canvas.get?_drawRows`), and nothing outside of it (`DiffersIn.drawRows`); lines around an
area change neither what is within nor what is beyond them (`DiffersIn.border`). So each part
of the screen keeps its place, and what is drawn there can be read off cell by cell.
-/

namespace PadScript.Screen

variable {canvas : Canvas}

-- ---------------------------------------------------------------------------
-- Glyphs in cells
-- ---------------------------------------------------------------------------

def glyphAt : List Glyph → Nat → Option Glyph
  | [], _ => none
  | glyph :: rest, column =>
    if column < glyph.columns then (if column = 0 then some glyph else none)
    else glyphAt rest (column - glyph.columns)

def Glyph.over (glyph : Glyph) (cell : Cell) : Cell :=
  ⟨glyph.text, glyph.columns, glyph.style.onto cell.style⟩

def paint (glyphs : List Glyph) (column : Nat) (cell : Cell) : Cell :=
  ((glyphAt glyphs column).map (·.over cell)).getD cell

@[simp] theorem paint_nil (column : Nat) : paint [] column = id := rfl

theorem paint_cons (glyph : Glyph) (rest : List Glyph) (column : Nat) :
    paint (glyph :: rest) column =
      if column < glyph.columns then (if column = 0 then glyph.over else id)
      else paint rest (column - glyph.columns) := by
  funext cell
  simp only [paint, glyphAt]
  split
  · split <;> rfl
  · rfl

theorem paint_of_columns_le {glyphs : List Glyph} {column : Nat} (h : columns glyphs ≤ column) :
    paint glyphs column = id := by
  induction glyphs generalizing column with
  | nil => rfl
  | cons glyph rest ih =>
    rw [columns] at h
    rw [paint_cons, if_neg (by omega), ih (by omega)]

namespace Canvas

theorem get?_blank (width height x y : Nat) :
    (blank width height).get? x y = if x < width ∧ y < height then some {} else none := by
  by_cases hy : y < height <;> by_cases hx : x < width <;>
    simp [blank, get?, hx, hy]

theorem get?_put (canvas : Canvas) (x y x' y' : Nat) (glyph : Glyph) :
    (canvas.put x y glyph).get? x' y' =
      if x = x' ∧ y = y' then (canvas.get? x' y').map glyph.over else canvas.get? x' y' :=
  get?_modify ..

theorem get?_drawGlyphs (canvas : Canvas) (x y x' y' : Nat) (glyphs : List Glyph) :
    (canvas.drawGlyphs x y glyphs).get? x' y' =
      if y' = y ∧ x ≤ x' then (canvas.get? x' y').map (paint glyphs (x' - x))
      else canvas.get? x' y' := by
  induction glyphs generalizing canvas x with
  | nil => simp [drawGlyphs]
  | cons glyph rest ih =>
    rw [drawGlyphs, ih, paint_cons]
    by_cases hy : y' = y
    · subst hy
      by_cases hzero : glyph.columns = 0
      · simp [hzero]
      · -- The cells before the glyph, the one in which it begins, and those after that.
        rcases Nat.lt_trichotomy x' x with hx | rfl | hx
        · have hbefore : ¬ x ≤ x' := by omega
          have hnot : ¬ x + glyph.columns ≤ x' := by omega
          simp [hzero, get?_put, hbefore, hnot, show x ≠ x' by omega]
        · simp [hzero, get?_put, Nat.pos_of_ne_zero hzero, show ¬ x' + glyph.columns ≤ x' by omega]
        · have hne : x ≠ x' := by omega
          by_cases hcovered : x' - x < glyph.columns
          · have hnot : ¬ x + glyph.columns ≤ x' := by omega
            simp [hzero, get?_put, hcovered, hnot, hne, show x' - x ≠ 0 by omega]
          · have hbehind : x + glyph.columns ≤ x' := by omega
            simp [hzero, get?_put, hcovered, hbehind, hne, show x ≤ x' by omega, Nat.sub_sub]
    · by_cases hzero : glyph.columns = 0 <;> simp [hy, hzero, get?_put, Ne.symm hy]

theorem get?_drawFrom (canvas : Canvas) (x y x' y' : Nat) (rows : List (List Glyph)) :
    ((rows.zipIdx y).foldl (fun canvas row => canvas.drawGlyphs x row.2 row.1) canvas).get? x' y' =
      if y ≤ y' ∧ x ≤ x' then (canvas.get? x' y').map (paint (rows[y' - y]?.getD []) (x' - x))
      else canvas.get? x' y' := by
  induction rows generalizing canvas y with
  | nil => simp
  | cons row rest ih =>
    rw [List.zipIdx_cons, List.foldl_cons, ih, get?_drawGlyphs]
    rcases Nat.lt_trichotomy y' y with hy | rfl | hy
    · have habove : ¬ y ≤ y' := by omega
      simp [habove, show ¬ y + 1 ≤ y' by omega, show y' ≠ y by omega]
    · simp [show ¬ y' + 1 ≤ y' by omega]
    · have hnext : y' - y = y' - (y + 1) + 1 := by omega
      simp [hnext, show y ≤ y' by omega, show y + 1 ≤ y' by omega, show y' ≠ y by omega]

/-- Each cell of an area holds the glyph that begins there in its row. -/
theorem get?_drawRows (canvas : Canvas) (area : Area) (rows : List (List Glyph)) {column row : Nat}
    (hcolumn : column < area.width) (hrow : row < area.height) :
    (canvas.drawRows area rows).get? (area.x + column) (area.y + row) =
      (canvas.get? (area.x + column) (area.y + row)).map (paint (rows[row]?.getD []) column) := by
  have hnonempty : area.isEmpty = false := by
    simp [Area.isEmpty, show area.width ≠ 0 by omega, show area.height ≠ 0 by omega]
  rw [drawRows, if_neg (by simp [hnonempty]), get?_drawFrom]
  simp [hrow]

end Canvas

-- ---------------------------------------------------------------------------
-- What is left alone
-- ---------------------------------------------------------------------------

/-- Two canvases are alike but for cells of which `p` holds. -/
def DiffersIn (p : Nat → Nat → Prop) (before after : Canvas) : Prop :=
  ∀ x y, ¬ p x y → after.get? x y = before.get? x y

namespace Area

theorem contains_iff (area : Area) (x y : Nat) :
    area.contains x y = true ↔
      area.x ≤ x ∧ x < area.x + area.width ∧ area.y ≤ y ∧ y < area.y + area.height := by
  simp only [contains, Bool.and_eq_true, decide_eq_true_eq, and_assoc]
  rfl

end Area

namespace Border

/-- The cells of an area in which lines around it are drawn. -/
def Edge (border : Border) (area : Area) (x y : Nat) : Prop :=
  area.contains x y ∧ ¬ (border.inner area).contains x y

variable {border : Border} {area : Area} {x y n : Nat}

theorem edge_of (h : area.contains x y) (hedge : x = area.x ∨ x + 1 = area.right ∨
    y + 1 = area.bottom ∨ border.title.isSome ∧ y = area.y) : border.Edge area x y := by
  refine ⟨h, ?_⟩
  rw [Area.contains_iff] at h
  simp only [Area.contains_iff, inner, Area.right, Area.bottom] at hedge ⊢
  split <;> simp_all <;> omega

theorem edge_left (hwidth : area.width ≠ 0) (hn : n < area.height) :
    border.Edge area area.x (area.y + n) := by
  refine edge_of ((area.contains_iff _ _).2 ?_) (.inl rfl)
  omega

theorem edge_right (hwidth : area.width ≠ 0) (hn : n < area.height) :
    border.Edge area (area.right - 1) (area.y + n) := by
  have hright : area.right = area.x + area.width := rfl
  refine edge_of ((area.contains_iff _ _).2 ?_) (.inr (.inl ?_))
  all_goals omega

theorem edge_bottom (hheight : area.height ≠ 0) (hn : n < area.width) :
    border.Edge area (area.x + n) (area.bottom - 1) := by
  have hbottom : area.bottom = area.y + area.height := rfl
  refine edge_of ((area.contains_iff _ _).2 ?_) (.inr (.inr (.inl ?_)))
  all_goals omega

theorem edge_top (htitle : border.title.isSome) (hheight : area.height ≠ 0)
    (hn : n < area.width) : border.Edge area (area.x + n) area.y := by
  refine edge_of ((area.contains_iff _ _).2 ?_) (.inr (.inr (.inr ⟨htitle, rfl⟩)))
  omega

end Border

namespace DiffersIn

variable {p q : Nat → Nat → Prop} {first second third : Canvas}

theorem refl (p : Nat → Nat → Prop) (canvas : Canvas) : DiffersIn p canvas canvas :=
  fun _ _ _ => rfl

theorem trans (h : DiffersIn p first second) (h' : DiffersIn p second third) :
    DiffersIn p first third :=
  fun x y hp => (h' x y hp).trans (h x y hp)

theorem mono (h : DiffersIn p first second) (hpq : ∀ x y, p x y → q x y) :
    DiffersIn q first second :=
  fun x y hq => h x y fun hp => hq (hpq x y hp)

theorem put {x y : Nat} (h : p x y) (glyph : Glyph) :
    DiffersIn p canvas (canvas.put x y glyph) := by
  intro x' y' hp
  rw [Canvas.get?_put, if_neg]
  rintro ⟨rfl, rfl⟩
  exact hp h

theorem strokes {cells : List (Nat × Nat)} (h : ∀ cell ∈ cells, p cell.1 cell.2) (glyph : Glyph) :
    DiffersIn p canvas (Border.strokes canvas cells glyph) := by
  induction cells generalizing canvas with
  | nil => exact refl p canvas
  | cons cell cells ih =>
    obtain ⟨hcell, hcells⟩ := List.forall_mem_cons.1 h
    exact (put hcell glyph).trans (ih hcells)

theorem strokes_range {cell : Nat → Nat × Nat} {n : Nat}
    (h : ∀ i < n, p (cell i).1 (cell i).2) (glyph : Glyph) :
    DiffersIn p canvas (Border.strokes canvas ((List.range n).map cell) glyph) := by
  refine strokes (fun _ hcell => ?_) glyph
  obtain ⟨i, hi, rfl⟩ := List.mem_map.1 hcell
  exact h i (List.mem_range.1 hi)

theorem stroke {x y : Nat} (h : p x y) (glyph : Glyph) :
    DiffersIn p canvas (Border.strokes canvas [(x, y)] glyph) :=
  put h glyph

theorem drawGlyphs {x y : Nat} {glyphs : List Glyph}
    (h : ∀ x', x ≤ x' → x' < x + columns glyphs → p x' y) :
    DiffersIn p canvas (canvas.drawGlyphs x y glyphs) := by
  intro x' y' hp
  rw [Canvas.get?_drawGlyphs]
  split
  · rename_i hin
    obtain ⟨rfl, hx⟩ := hin
    have hbehind : columns glyphs ≤ x' - x :=
      Nat.le_of_not_lt fun hlt => hp (h x' hx (by omega))
    simp [paint_of_columns_le hbehind]
  · rfl

theorem drawRows_right (area : Area) (rows : List (List Glyph)) :
    DiffersIn (fun x _ => area.x ≤ x) canvas (canvas.drawRows area rows) := by
  intro x y hx
  unfold Canvas.drawRows
  split
  · rfl
  · rw [Canvas.get?_drawFrom, if_neg (by omega)]

theorem drawRows {area : Area} {rows : List (List Glyph)}
    (h : ∀ row ∈ rows, columns row ≤ area.width) :
    DiffersIn (area.contains · ·) canvas (canvas.drawRows area rows) := by
  intro x y hp
  simp only [Area.contains_iff] at hp
  unfold Canvas.drawRows
  split
  · rfl
  · rw [Canvas.get?_drawFrom]
    split
    · suffices hid : paint ((rows.take area.height)[y - area.y]?.getD []) (x - area.x) = id by
        simp [hid]
      cases hrow : (rows.take area.height)[y - area.y]? with
      | none => rfl
      | some row =>
        have hlt : y - area.y < area.height := by
          have := (List.getElem?_eq_some_iff.1 hrow).1
          simp only [List.length_take] at this
          omega
        have hwidth := h row (List.mem_of_mem_take (List.mem_of_getElem? hrow))
        have hbehind : columns row ≤ x - area.x := by omega
        exact paint_of_columns_le hbehind
    · rfl

theorem border (border : Border) (area : Area) :
    DiffersIn (border.Edge area) canvas (border.draw area canvas) := by
  unfold Border.draw
  split
  · exact refl _ _
  · rename_i hne
    obtain ⟨hwidth, hheight⟩ : area.width ≠ 0 ∧ area.height ≠ 0 := by
      simpa [Area.isEmpty] using hne
    have hleft : ∀ n < area.height, border.Edge area area.x (area.y + n) :=
      fun _ => Border.edge_left hwidth
    have hright : ∀ n < area.height, border.Edge area (area.right - 1) (area.y + n) :=
      fun _ => Border.edge_right hwidth
    have hbottom : ∀ n < area.width, border.Edge area (area.x + n) (area.bottom - 1) :=
      fun _ => Border.edge_bottom hheight
    have hcorner : border.Edge area (area.right - 1) (area.bottom - 1) := by
      have hlast := hright (area.height - 1) (by omega)
      rwa [← Nat.add_sub_assoc (by omega)] at hlast
    cases htitle : border.title with
    | none =>
      exact ((((strokes_range hleft _).trans (strokes_range hright _)).trans
        (strokes_range hbottom _)).trans (stroke hcorner _)).trans (stroke (hbottom 0 (by omega)) _)
    | some title =>
      have htop : ∀ n < area.width, border.Edge area (area.x + n) area.y :=
        fun _ => Border.edge_top (by simp [htitle]) hheight
      have hfit := columns_fit_le (area.width - 2) (Span.glyphs ⟨title, .plain⟩)
      refine trans ?_ (drawGlyphs fun x hx hbehind => ?_)
      · exact (((((((strokes_range hleft _).trans (strokes_range htop _)).trans
          (strokes_range hright _)).trans (strokes_range hbottom _)).trans
          (stroke hcorner _)).trans (stroke (hright 0 (by omega)) _)).trans
          (stroke (hbottom 0 (by omega)) _)).trans (stroke (hleft 0 (by omega)) _)
      · have := htop (x - area.x) (by omega)
        rwa [Nat.add_sub_of_le (by omega)] at this

end DiffersIn

end PadScript.Screen
