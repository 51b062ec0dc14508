import PadScript.Proofs.Screen.Panels

/-!
# The current line is kept in view

The listing is scrolled so that the current line stands in the middle of its rows once it would
be below it. How far it can be scrolled is a word of 16 bits, and so the current line is out of
view only if there is no row at all, or if the scroll limit and all rows together do not reach it
(`current_line_in_view`). No script of 65,000 lines is so long.
-/

namespace PadScript

open Screen

namespace Screen

theorem currentLine?_eq_some {progress : Progress} {line : Nat}
    (h : progress.line.toInt = line) : currentLine? progress = some line := by
  have hstarted : ¬ progress.line < 0 := by
    rw [Int32.lt_iff_toInt_lt, h]
    exact Int.not_lt.2 (Int.natCast_nonneg line)
  simp [currentLine?, hstarted, h]

theorem length_listingHeader_le (session : Session) (progress : Progress) (now : Time) :
    (listingHeader session progress now).length ≤ 5 := by
  cases herror : session.error <;> simp [listingHeader, headerLines, herror]

theorem sourceLine_current (state : SessionState) (text : String) (line : Nat) :
    sourceLine state (some line) text line =
      [⟨"> ", .plain⟩, ⟨lineNumber (line + 1), .color .darkGray⟩, ⟨text, currentStyle state⟩] := by
  simp [sourceLine]

theorem marked_iff {state : SessionState} {current : Option Nat} {text : String} {index : Nat} :
    (sourceLine state current text index).head? = some ⟨"> ", .plain⟩ ↔ current = some index := by
  by_cases hcurrent : current = some index <;> simp [sourceLine, hcurrent]

theorem listingLines_source (session : Session) (progress : Progress) (now : Time) {index : Nat}
    (hsource : index < session.source.length) :
    (listingLines session progress now)[(listingHeader session progress now).length + index]? =
      some (sourceLine session.state (currentLine? progress) session.source[index] index) := by
  simp [listingLines, hsource]

theorem listingScroll_covers_iff (header line rows : Nat) :
    (∃ row < rows, listingScroll header (some line) rows + row = header + line) ↔
      0 < rows ∧ header + line < 65535 + rows := by
  simp only [listingScroll]
  constructor
  · rintro ⟨row, hrow, h⟩
    omega
  · rintro ⟨hrows, h⟩
    exact ⟨header + line - min (header + line - rows / 2) 65535, by omega, by omega⟩

end Screen

/-- Each row of the listing shows one of its lines, from where it is scrolled to. The current
line is the one that is marked, with its number and its text, and is one of those shown just if
there is a row and the scroll limit leaves room for it. -/
theorem current_line_in_view (app : App) (session : Session) (progress : Progress) (now : Time)
    (width height : Nat) {line : Nat} (hline : progress.line.toInt = line)
    (hsource : line < session.source.length) :
    let area := app.listingArea width height
    let top := app.listingTop session progress now width height
    let lines := listingLines session progress now
    let header := (listingHeader session progress now).length
    (app.dialog = none → ∀ row < area.height,
      (app.draw session progress now width height).Shows area row
        (fit area.width (lines[top + row]?.getD []).glyphs)) ∧
      lines[header + line]? = some [⟨"> ", .plain⟩, ⟨lineNumber (line + 1), .color .darkGray⟩,
        ⟨session.source[line], currentStyle session.state⟩] ∧
      (∀ index < session.source.length,
        (lines[header + index]?.bind List.head? = some ⟨"> ", .plain⟩ ↔ index = line)) ∧
      ((∃ row < area.height, top + row = header + line) ↔
        0 < area.height ∧ header + line < 65535 + area.height) ∧
      (session.source.length ≤ 65000 → 0 < area.height →
        ∃ row < area.height, top + row = header + line) := by
  intro area top lines header
  have hcurrent := currentLine?_eq_some hline
  have hcovers : (∃ row < area.height, top + row = header + line) ↔
      0 < area.height ∧ header + line < 65535 + area.height := by
    simp only [top, App.listingTop, hcurrent]
    exact listingScroll_covers_iff header line area.height
  have hlines {index : Nat} (hindex : index < session.source.length) : lines[header + index]? =
      some (sourceLine session.state (some line) session.source[index] index) := by
    rw [← hcurrent]
    exact listingLines_source session progress now hindex
  refine ⟨fun hdialog row hrow => App.shows_listing hdialog hrow,
    (hlines hsource).trans (congrArg some (sourceLine_current _ _ _)), fun index hindex => ?_,
    hcovers, fun hsize hrows => ?_⟩
  · rw [hlines hindex, Option.bind_some, marked_iff, Option.some.injEq, eq_comm]
  have hheader : header ≤ 5 := length_listingHeader_le session progress now
  exact hcovers.2 ⟨hrows, by omega⟩

/-- At the scroll limit, in 22 rows below a header of four lines: one line is on the last row,
and the line after it is out of view. -/
theorem current_line_in_view_at_limit :
    let session : Session := { source := List.replicate 70000 "Wait 1" }
    let shown (line : Nat) : Prop :=
      let progress : Progress := { line := Int32.ofNat line }
      ∃ row < (({} : App).listingArea 80 24).height,
        ({} : App).listingTop session progress 0 80 24 + row =
          (listingHeader session progress 0).length + line
    ((Int32.ofNat 65552).toInt = (65552 : Nat) ∧ 65552 < session.source.length ∧ shown 65552) ∧
      (Int32.ofNat 65553).toInt = (65553 : Nat) ∧ 65553 < session.source.length ∧
        ¬ shown 65553 := by
  intro session shown
  have hlength : session.source.length = 70000 := List.length_replicate
  refine ⟨⟨by decide, by omega, ?_⟩, by decide, by omega, ?_⟩
  · refine (@current_line_in_view {} session { line := Int32.ofNat 65552 } 0 80 24 65552
      (by decide) (by omega)).2.2.2.1.2 ?_
    decide
  · intro h
    have := (@current_line_in_view {} session { line := Int32.ofNat 65553 } 0 80 24 65553
      (by decide) (by omega)).2.2.2.1.1 h
    revert this
    decide

end PadScript
