import PadScript.Proofs.Screen.Painting

/-!
# The panels of the screen

As long as no dialog covers them, the listing and the log each hold what was drawn in them:
a row of the listing shows one line of it, counted from where it is scrolled to
(`App.shows_listing`), and a row of the log one row of its folded messages (`App.shows_log`).
-/

namespace PadScript

namespace Screen

/-- A row of an area holds glyphs, each where it begins, and nothing else. -/
def Canvas.Shows (canvas : Canvas) (area : Area) (row : Nat) (glyphs : List Glyph) : Prop :=
  ∀ column < area.width,
    canvas.get? (area.x + column) (area.y + row) = some (paint glyphs column {})

instance (canvas : Canvas) (area : Area) (row : Nat) (glyphs : List Glyph) :
    Decidable (canvas.Shows area row glyphs) := by
  unfold Canvas.Shows
  infer_instance

variable {canvas : Canvas} {area : Area} {row : Nat}

theorem Border.contains_of_inner {border : Border} {x y : Nat}
    (h : (border.inner area).contains x y) : area.contains x y := by
  simp only [Area.contains_iff, inner] at h ⊢
  split at h <;> omega

theorem shows_framed (border : Border) (rows : List (List Glyph))
    (hrow : row < (border.inner area).height)
    (hblank : ∀ x y, area.contains x y → canvas.get? x y = some {}) :
    ((border.draw area canvas).drawRows (border.inner area) rows).Shows (border.inner area) row
      (rows[row]?.getD []) := by
  intro column hcolumn
  have hin : (border.inner area).contains ((border.inner area).x + column)
      ((border.inner area).y + row) := by
    rw [Area.contains_iff]
    omega
  have hwithin := @DiffersIn.border canvas border area _ _ fun hedge => hedge.2 hin
  rw [Canvas.get?_drawRows _ _ _ hcolumn hrow, hwithin, hblank _ _ (Border.contains_of_inner hin)]
  rfl

theorem DiffersIn.framed (border : Border) {rows : List (List Glyph)}
    (h : ∀ row ∈ rows, columns row ≤ (border.inner area).width) :
    DiffersIn (area.contains · ·) canvas
      ((border.draw area canvas).drawRows (border.inner area) rows) :=
  ((DiffersIn.border border area).mono fun _ _ hedge => hedge.1).trans
    ((DiffersIn.drawRows h).mono fun _ _ hin => Border.contains_of_inner hin)

theorem DiffersIn.drawBanner (state : SessionState) (area : Area) :
    DiffersIn (area.contains · ·) canvas (drawBanner state area canvas) := by
  refine DiffersIn.drawRows fun row hrow => ?_
  obtain rfl := List.mem_singleton.1 hrow
  exact columns_fit_le _ _

theorem DiffersIn.drawListing (session : Session) (progress : Progress) (now : Time) (area : Area) :
    DiffersIn (area.contains · ·) canvas (drawListing session progress now area canvas) := by
  refine DiffersIn.framed listingBorder fun row hrow => ?_
  obtain ⟨line, -, rfl⟩ := List.mem_map.1 hrow
  exact columns_fit_le _ _

theorem DiffersIn.drawLog (messages : List String) (scroll : Nat) (area : Area) :
    DiffersIn (fun x _ => area.x ≤ x) canvas (drawLog messages scroll area canvas) := by
  refine ((DiffersIn.border logBorder area).mono fun x y hedge => ?_).trans
    ((DiffersIn.drawRows_right _ _).mono fun x y hx => ?_)
  · exact ((area.contains_iff x y).1 hedge.1).1
  · exact Nat.le_trans (Nat.le_add_right _ _) hx

theorem getElem?_fitted (lines : List Line) (top width : Nat) {rows : Nat} (hrow : row < rows) :
    (((lines.drop top).take rows).map fun line => fit width line.glyphs)[row]?.getD [] =
      fit width (lines[top + row]?.getD []).glyphs := by
  simp only [List.getElem?_map, List.getElem?_take, hrow, if_true, List.getElem?_drop]
  cases lines[top + row]? <;> rfl

end Screen

namespace App

open Screen

variable (app : App) (session : Session) (progress : Progress) (now : Time) (width height : Nat)

def listingArea : Area := listingBorder.inner ((app.panels width height).1.below 1)

def logArea : Area := logBorder.inner (app.panels width height).2

def listingTop : Nat :=
  listingScroll (listingHeader session progress now).length (currentLine? progress)
    (app.listingArea width height).height

theorem panels_eq : ∃ left ≤ width,
    app.panels width height = (⟨0, 0, left, height⟩, ⟨left, 0, width - left, height⟩) := by
  unfold panels
  cases app.logVisible with
  | true => exact ⟨(2 * width * 60 + 100) / 200, by omega, by simp [Area.splitColumns]⟩
  | false => exact ⟨width, Nat.le_refl width, by simp⟩

/-- The screen without its log, as long as no dialog covers it. -/
def drawLeft : Canvas :=
  let left := (app.panels width height).1
  drawListing session progress now (left.below 1)
    (drawBanner session.state (left.row 0) (.blank width height))

variable {app session progress now width height} {row : Nat}

theorem draw_eq (hdialog : app.dialog = none) :
    app.draw session progress now width height =
      if app.logVisible then
        drawLog app.logs.toList app.logScroll (app.panels width height).2
          (app.drawLeft session progress now width height)
      else app.drawLeft session progress now width height := by
  simp only [draw, hdialog, drawLeft]

theorem drawLeft_shows (hrow : row < (app.listingArea width height).height) :
    let line := (listingLines session progress now)[app.listingTop session progress now width height
      + row]?.getD []
    (app.drawLeft session progress now width height).Shows (app.listingArea width height) row
      (fit (app.listingArea width height).width line.glyphs) := by
  intro line
  obtain ⟨left, hleft, hpanels⟩ := app.panels_eq width height
  have hblank (x y : Nat) (h : ((app.panels width height).1.below 1).contains x y) :
      (drawBanner session.state ((app.panels width height).1.row 0)
        (.blank width height)).get? x y = some {} := by
    rw [hpanels, Area.contains_iff] at h
    simp only [Area.below, Area.bottom] at h
    rw [hpanels, DiffersIn.drawBanner _ _ x y, Canvas.get?_blank, if_pos (by omega)]
    simp only [Area.contains_iff, Area.row, Area.bottom]
    split <;> omega
  rw [← getElem?_fitted _ _ _ hrow]
  exact shows_framed listingBorder _ hrow hblank

theorem get?_drawLeft {x y : Nat} (h : (app.panels width height).2.contains x y) :
    (app.drawLeft session progress now width height).get? x y = some {} := by
  obtain ⟨left, hleft, hpanels⟩ := app.panels_eq width height
  rw [hpanels, Area.contains_iff] at h
  dsimp only at h
  unfold drawLeft
  rw [hpanels, DiffersIn.drawListing _ _ _ _ x y, DiffersIn.drawBanner _ _ x y, Canvas.get?_blank,
    if_pos (by omega)]
  all_goals
    simp only [Area.contains_iff, Area.row, Area.below]
    omega

theorem shows_listing (hdialog : app.dialog = none)
    (hrow : row < (app.listingArea width height).height) :
    let line := (listingLines session progress now)[app.listingTop session progress now width height
      + row]?.getD []
    (app.draw session progress now width height).Shows (app.listingArea width height) row
      (fit (app.listingArea width height).width line.glyphs) := by
  intro line column hcolumn
  rw [draw_eq hdialog, ← drawLeft_shows hrow column hcolumn]
  split
  · obtain ⟨left, hleft, hpanels⟩ := app.panels_eq width height
    refine DiffersIn.drawLog _ _ _ _ _ fun hright => ?_
    -- The listing ends where the log begins.
    rw [listingArea, hpanels] at hcolumn hright
    simp only [Border.inner, Area.below] at hcolumn hright
    omega
  · rfl

theorem shows_log (hdialog : app.dialog = none) (hvisible : app.logVisible = true)
    (hrow : row < (app.logArea width height).height) :
    let rows := logRows app.logs.toList (app.logArea width height).width
      (app.logArea width height).height app.logScroll
    (app.draw session progress now width height).Shows (app.logArea width height) row
      (rows[row]?.getD []) := by
  rw [draw_eq hdialog, if_pos hvisible]
  exact shows_framed logBorder _ hrow fun x y => get?_drawLeft

end App

end PadScript
