import PadScript.Proofs.Screen.LogWindow
import PadScript.Proofs.Screen.Panels

/-!
# The newest message

The window of the log counts messages, but the panel is filled with their folded rows from the
top. So the newest message begins below the rows of those in the window before it, and is shown
if they leave a row for it (`newest_message_shown`); long messages push it out of the panel
(`newest_message_pushed_out`).
-/

namespace PadScript

open Screen

namespace Screen

/-- The rows of the messages that stand in the window before the newest one. -/
def rowsAbove (older : List String) (width height : Nat) : List (List Glyph) :=
  (older.drop (older.length - (height - 1))).flatMap (messageRows width)

theorem logRows_concat (older : List String) (newest : String) (width : Nat) {height : Nat}
    (hheight : 0 < height) :
    logRows (older ++ [newest]) width height 0 =
      rowsAbove older width height ++ messageRows width newest := by
  have hdrop : older.length + 1 - height = older.length - (height - 1) := by omega
  have hle : older.length - (height - 1) ≤ older.length := Nat.sub_le ..
  simp [logRows, logWindow_zero, rowsAbove, hdrop, List.drop_append_of_le_length hle]

theorem length_rowsAbove_lt {older : List String} {width height : Nat} (hheight : 0 < height)
    (hshort : ∀ message ∈ older.drop (older.length - (height - 1)),
      (messageRows width message).length = 1) :
    (rowsAbove older width height).length < height := by
  have hones : (older.drop (older.length - (height - 1))).map
      (fun message => (messageRows width message).length) =
        (older.drop (older.length - (height - 1))).map fun _ => 1 :=
    List.map_congr_left hshort
  rw [rowsAbove, List.length_flatMap, hones, List.map_const', List.sum_replicate_nat,
    List.length_drop]
  omega

end Screen

/-- The log that is not scrolled back shows the start of the newest message below the messages
before it in the window if they leave a row for it, as they do if none of them is folded;
otherwise it shows nothing but earlier messages. -/
theorem newest_message_shown (app : App) (session : Session) (progress : Progress) (now : Time)
    (width height : Nat) {older : List String} {newest : String}
    (hlogs : app.logs.toList = older ++ [newest]) (hscroll : app.logScroll = 0)
    (hvisible : app.logVisible = true) (hdialog : app.dialog = none)
    (hrows : 0 < (app.logArea width height).height) :
    let area := app.logArea width height
    let above := rowsAbove older area.width area.height
    let screen := app.draw session progress now width height
    messageRows area.width newest ≠ [] ∧
      (above.length < area.height →
        screen.Shows area above.length ((messageRows area.width newest).headD [])) ∧
      (area.height ≤ above.length → ∀ row < area.height,
        ∃ message ∈ older, ∃ glyphs ∈ messageRows area.width message,
          screen.Shows area row glyphs) ∧
      ((∀ message ∈ older.drop (older.length - (area.height - 1)),
        (messageRows area.width message).length = 1) → above.length < area.height) := by
  intro area above screen
  have hshows {row : Nat} (hrow : row < area.height) :
      screen.Shows area row ((above ++ messageRows area.width newest)[row]?.getD []) := by
    have : screen.Shows area row _ := App.shows_log hdialog hvisible hrow
    rwa [hscroll, hlogs, logRows_concat _ _ _ hrows] at this
  refine ⟨fold_ne_nil _ _, fun hroom => ?_, fun hfull row hrow => ?_, length_rowsAbove_lt hrows⟩
  · have hfirst : (above ++ messageRows area.width newest)[above.length]?.getD [] =
        (messageRows area.width newest).headD [] := by
      simp [List.getElem?_append_right (Nat.le_refl above.length), List.head?_eq_getElem?]
    exact hfirst ▸ hshows hroom
  · have habove : row < above.length := Nat.lt_of_lt_of_le hrow hfull
    obtain ⟨message, hmessage, hglyphs⟩ := List.mem_flatMap.1 (List.getElem_mem habove)
    refine ⟨message, List.mem_of_mem_drop hmessage, above[row], hglyphs, ?_⟩
    have := hshows hrow
    rwa [List.getElem?_append_left habove, List.getElem?_eq_getElem habove] at this

/-- A short message after one of a row and one of two rows, in a panel of four rows. -/
theorem newest_message_shown_last :
    let app : App := { logs := #["ab", "cdef", "Z"] }
    app.logs.toList = ["ab", "cdef"] ++ ["Z"] ∧ app.logScroll = 0 ∧ app.logVisible = true ∧
      app.dialog = none ∧ 0 < (app.logArea 10 6).height ∧
      (app.draw {} {} 0 10 6).Shows (app.logArea 10 6) 3 [⟨"Z", 1, .plain, false⟩] := by
  intro app
  have hrows : 0 < (app.logArea 10 6).height := by decide
  refine ⟨rfl, rfl, rfl, rfl, hrows, ?_⟩
  have hshown := (@newest_message_shown app {} {} 0 10 6 ["ab", "cdef"] "Z" rfl rfl rfl rfl
    hrows).2.1
  have hroom : (rowsAbove ["ab", "cdef"] (app.logArea 10 6).width
      (app.logArea 10 6).height).length = 3 := by decide +kernel
  have hrow : (messageRows (app.logArea 10 6).width "Z").headD [] = [⟨"Z", 1, .plain, false⟩] := by
    decide +kernel
  rw [hroom, hrow] at hshown
  exact hshown (by decide)

/-- The log that is not scrolled back need not show the start of its newest message: in two rows
of two columns there is no room for it below a message of four letters. -/
theorem newest_message_pushed_out :
    ¬ ∀ (logs : Array String) (newest : String) (width height : Nat),
      let app : App := { logs }
      let area := app.logArea width height
      logs.toList.getLast? = some newest → 0 < area.height → 0 < area.width →
        ∃ row < area.height, (app.draw {} {} 0 width height).Shows area row
          ((messageRows area.width newest).headD []) := by
  intro h
  obtain ⟨row, hrow, hshows⟩ := h #["abcd", "Z"] "Z" 10 4 rfl (by decide) (by decide)
  have hnowhere : ∀ row < 2, ¬ (({ logs := #["abcd", "Z"] } : App).draw {} {} 0 10 4).Shows
      (({ logs := #["abcd", "Z"] } : App).logArea 10 4) row
      ((messageRows 2 "Z").headD []) := by
    decide +kernel
  exact hnowhere row hrow hshows

end PadScript
