/-!
# Reading integers

A decimal integer is an optional sign and at least one ASCII digit. Leading
zeros are allowed, and a value outside the range asked for is no reading.
-/

namespace PadScript.Text

def natural? (s : List Char) : Option Nat :=
  if s ≠ [] ∧ s.all Char.isDigit then some (s.foldl (fun n c => 10 * n + (c.toNat - 48)) 0)
  else none

def integer? : List Char → Option Int
  | '-' :: digits => (natural? digits).map fun n => -(n : Int)
  | '+' :: digits => (natural? digits).map Int.ofNat
  | digits => (natural? digits).map Int.ofNat

def int32? (s : String) : Option Int32 := do
  let n ← integer? s.toList
  if Int32.minValue.toInt ≤ n ∧ n ≤ Int32.maxValue.toInt then some (Int32.ofInt n) else none

/-- A natural number below `bound`; a plus sign may stand before it, a minus sign may not. -/
def below? (bound : Nat) (s : String) : Option Nat := do
  let n ← match s.toList with
    | '+' :: digits => natural? digits
    | digits => natural? digits
  if n < bound then some n else none

end PadScript.Text
