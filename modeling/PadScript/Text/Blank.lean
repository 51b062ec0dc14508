import PadScript.Text.Ranges

/-!
# Blank characters

The characters with the Unicode property `White_Space`. Scripts are split at
these, and a keyword may hold none of them.
-/

namespace PadScript.Text

/-- The ranges of code points with the property `White_Space`. -/
def blankRanges : Ranges :=
  [(0x09, 0x0d), (0x20, 0x20), (0x85, 0x85), (0xa0, 0xa0), (0x1680, 0x1680), (0x2000, 0x200a),
    (0x2028, 0x2029), (0x202f, 0x202f), (0x205f, 0x205f), (0x3000, 0x3000)]

example : blankRanges.ordered := by decide +kernel

def isBlank (c : Char) : Bool := blankRanges.covers c.toNat

theorem isBlank_of_isWhitespace {c : Char} (h : c.isWhitespace) : isBlank c := by
  simp only [Char.isWhitespace, Bool.or_eq_true, decide_eq_true_eq] at h
  rcases h with ((h | h) | h) | h <;> subst h <;> decide

theorem not_isBlank_hash : isBlank '#' = false := by decide

theorem not_isBlank_comma : isBlank ',' = false := by decide

theorem isBlank_space : isBlank ' ' = true := by decide

end PadScript.Text
