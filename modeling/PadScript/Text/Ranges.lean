/-!
# Ranges of code points

A class of characters is given by ranges in increasing order. A search ends at the
first range that begins above the character, and misses none.
-/

namespace PadScript.Text

/-- Ranges of code points, each by its first and its last one. -/
abbrev Ranges := List (Nat × Nat)

namespace Ranges

def covers (n : Nat) : Ranges → Bool
  | [] => false
  | (first, last) :: rest => if n < first then false else n ≤ last || covers n rest

def orderedFrom (low : Nat) : Ranges → Bool
  | [] => true
  | (first, last) :: rest => low ≤ first && first ≤ last && orderedFrom (last + 1) rest

def ordered (ranges : Ranges) : Bool := ranges.orderedFrom 0

theorem le_of_orderedFrom {low : Nat} {ranges : Ranges} (h : ranges.orderedFrom low) :
    ∀ range ∈ ranges, low ≤ range.1 := by
  induction ranges generalizing low with
  | nil => simp
  | cons range rest ih =>
    simp only [orderedFrom, Bool.and_eq_true, decide_eq_true_eq] at h
    obtain ⟨⟨hlow, hrange⟩, hrest⟩ := h
    intro other hother
    rcases List.mem_cons.1 hother with rfl | hother
    · exact hlow
    · have := ih hrest other hother
      omega

theorem covers_iff_of_orderedFrom {low : Nat} {ranges : Ranges} (n : Nat)
    (h : ranges.orderedFrom low) :
    ranges.covers n ↔ ∃ range ∈ ranges, range.1 ≤ n ∧ n ≤ range.2 := by
  induction ranges generalizing low with
  | nil => simp [covers]
  | cons range rest ih =>
    simp only [orderedFrom, Bool.and_eq_true, decide_eq_true_eq] at h
    obtain ⟨⟨_, hrange⟩, hrest⟩ := h
    rw [covers]
    split
    · refine iff_of_false (by simp) ?_
      rintro ⟨other, hother, hfirst, _⟩
      rcases List.mem_cons.1 hother with rfl | hother
      · omega
      · have := le_of_orderedFrom hrest other hother
        omega
    · rename_i hfirst
      simp [ih hrest, Nat.le_of_not_lt hfirst]

theorem covers_iff {ranges : Ranges} (n : Nat) (h : ranges.ordered) :
    ranges.covers n ↔ ∃ range ∈ ranges, range.1 ≤ n ∧ n ≤ range.2 :=
  covers_iff_of_orderedFrom n h

end Ranges

end PadScript.Text
