import PadScript.Screen.LogPanel

/-!
# The window of the log

However far it is scrolled back, the window is as many messages as there are rows, one after
the other, or all of them if they are fewer. It goes from the newest messages to the oldest one
message at a time, and stays there (`logWindow_slides`).
-/

namespace PadScript.Screen

variable {α : Type} {total rows : Nat}

theorem windowStart_le_windowEnd (total rows scroll : Nat) :
    windowStart total rows scroll ≤ windowEnd total rows scroll := by
  unfold windowStart windowEnd
  omega

theorem windowEnd_le (total rows scroll : Nat) : windowEnd total rows scroll ≤ total :=
  Nat.sub_le ..

theorem windowEnd_eq (total rows scroll : Nat) :
    windowEnd total rows scroll = windowStart total rows scroll + min rows total := by
  unfold windowStart windowEnd
  omega

theorem windowStart_subtrahend_le (total rows scroll : Nat) :
    rows + min scroll (total - rows) ≤ max rows total := by
  omega

theorem windowStart_eq_zero_iff (scroll : Nat) :
    windowStart total rows scroll = 0 ↔ total - rows ≤ scroll := by
  unfold windowStart
  omega

theorem windowStart_succ (total rows scroll : Nat) :
    windowStart total rows (scroll + 1) ≤ windowStart total rows scroll ∧
      windowStart total rows scroll ≤ windowStart total rows (scroll + 1) + 1 := by
  unfold windowStart
  omega

/-- Message `i` comes last in the window that is scrolled back by those after it, or is in the
window of the oldest ones. -/
theorem exists_window_of_lt {i : Nat} (hrows : 0 < rows) (hi : i < total) :
    ∃ scroll ≤ total, windowStart total rows scroll ≤ i ∧ i < windowEnd total rows scroll := by
  refine ⟨total - 1 - i, ?_⟩
  unfold windowStart windowEnd
  omega

theorem length_logWindow (messages : List α) (rows scroll : Nat) :
    (logWindow messages rows scroll).length = min rows messages.length := by
  have hend := windowEnd_eq messages.length rows scroll
  have hle := windowEnd_le messages.length rows scroll
  simp only [logWindow, List.extract_eq_take_drop, List.length_take, List.length_drop]
  omega

theorem getElem?_logWindow (messages : List α) (scroll : Nat) {i : Nat}
    (hi : i < min rows messages.length) :
    (logWindow messages rows scroll)[i]? =
      messages[windowStart messages.length rows scroll + i]? := by
  have hend := windowEnd_eq messages.length rows scroll
  simp [logWindow, hend, hi]

theorem logWindow_zero (messages : List α) (rows : Nat) :
    logWindow messages rows 0 = messages.drop (messages.length - rows) := by
  simp only [logWindow, windowStart, windowEnd, Nat.zero_min, Nat.add_zero, Nat.sub_zero]
  exact List.take_of_length_le (by simp)

theorem getLast?_logWindow_zero (messages : List α) (hrows : 0 < rows) :
    (logWindow messages rows 0).getLast? = messages.getLast? := by
  rw [logWindow_zero, List.getLast?_drop]
  split
  · have hempty : messages.length = 0 := by omega
    simp [List.length_eq_zero_iff.1 hempty]
  · rfl

/-- What is in the window, and how it moves as it is scrolled back. -/
theorem logWindow_slides (messages : List α) (rows : Nat) :
    let total := messages.length
    (∀ scroll,
      windowStart total rows scroll ≤ windowEnd total rows scroll ∧
        windowEnd total rows scroll ≤ total ∧
        rows + min scroll (total - rows) ≤ max rows total ∧
        (logWindow messages rows scroll).length = min rows total ∧
        ∀ i < min rows total,
          (logWindow messages rows scroll)[i]? = messages[windowStart total rows scroll + i]?) ∧
      (0 < rows → (logWindow messages rows 0).getLast? = messages.getLast?) ∧
      (∀ scroll, windowStart total rows (scroll + 1) ≤ windowStart total rows scroll ∧
        windowStart total rows scroll ≤ windowStart total rows (scroll + 1) + 1) ∧
      (0 < rows → ∀ i < total, ∃ scroll ≤ total,
        windowStart total rows scroll ≤ i ∧ i < windowEnd total rows scroll) ∧
      ∃ last ≤ total, ∀ scroll, windowStart total rows scroll = 0 ↔ last ≤ scroll := by
  intro total
  refine ⟨fun scroll => ⟨windowStart_le_windowEnd .., windowEnd_le ..,
    windowStart_subtrahend_le .., length_logWindow .., fun i hi => getElem?_logWindow _ _ hi⟩,
    getLast?_logWindow_zero messages, windowStart_succ total rows,
    fun hrows i hi => exists_window_of_lt hrows hi,
    total - rows, Nat.sub_le .., windowStart_eq_zero_iff⟩

/-- Three messages in two rows, not scrolled, scrolled to the oldest and far beyond it. -/
theorem logWindow_slides_three :
    0 < 2 ∧ (logWindow ["a", "b", "c"] 2 0).getLast? = some "c" ∧
      (∃ scroll ≤ 3, windowStart 3 2 scroll ≤ 0 ∧ 0 < windowEnd 3 2 scroll) ∧
      1 < min 2 3 ∧ (logWindow ["a", "b", "c"] 2 (UInt64.size - 1))[1]? = some "b" :=
  have h := logWindow_slides ["a", "b", "c"] 2
  ⟨by decide, h.2.1 (by decide), h.2.2.2.1 (by decide) 0 (by decide), by decide,
    (h.1 (UInt64.size - 1)).2.2.2.2 1 (by decide)⟩

end PadScript.Screen
