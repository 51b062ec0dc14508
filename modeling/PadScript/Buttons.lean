/-!
# Buttons held on the pad

The pad reads the buttons held at one time as a 16-bit word, one bit per button,
on top of base bits that are always set. `frame` is the word as sent on the wire,
`ofSymbol?` and `ofChord?` read what scripts write, `show` writes it back.
-/

namespace PadScript

/-- The bits that every word carries. -/
def baseBits : UInt16 := 0x8080

/-- A set of buttons held at the same time, as the word the pad reads. -/
structure Buttons where
  word : UInt16
  base : word &&& baseBits = baseBits
  deriving DecidableEq

namespace Buttons

private theorem or_and_self (b c : UInt16) : (b ||| c) &&& c = c := by
  apply UInt16.eq_of_toBitVec_eq
  apply BitVec.eq_of_getLsbD_eq
  intro i _
  simp only [UInt16.toBitVec_and, UInt16.toBitVec_or, BitVec.getLsbD_and, BitVec.getLsbD_or]
  cases b.toBitVec.getLsbD i <;> cases c.toBitVec.getLsbD i <;> rfl

private theorem or_and_of_and {a b c : UInt16} (h : a &&& c = c) : (a ||| b) &&& c = c := by
  apply UInt16.eq_of_toBitVec_eq
  apply BitVec.eq_of_getLsbD_eq
  intro i _
  have hi := congrArg (fun w => w.toBitVec.getLsbD i) h
  simp only [UInt16.toBitVec_and, UInt16.toBitVec_or, BitVec.getLsbD_and, BitVec.getLsbD_or] at hi ⊢
  revert hi
  cases a.toBitVec.getLsbD i <;> cases b.toBitVec.getLsbD i <;> cases c.toBitVec.getLsbD i <;> simp

def ofBits (bits : UInt16) : Buttons := ⟨bits ||| baseBits, or_and_self bits baseBits⟩

def released : Buttons := ofBits 0

instance : Inhabited Buttons := ⟨released⟩

def union (a b : Buttons) : Buttons := ⟨a.word ||| b.word, or_and_of_and a.base⟩

instance : Union Buttons := ⟨union⟩

def isReleased (b : Buttons) : Bool := b = released

@[simp] theorem word_released : released.word = baseBits := by decide

@[simp] theorem word_union (a b : Buttons) : (a ∪ b).word = a.word ||| b.word := rfl

theorem ofBits_word (b : Buttons) : ofBits b.word = b := by
  have h : b.word ||| baseBits = b.word := by
    have e := b.base
    apply UInt16.eq_of_toBitVec_eq
    apply BitVec.eq_of_getLsbD_eq
    intro i _
    have hi := congrArg (fun w => w.toBitVec.getLsbD i) e
    simp only [UInt16.toBitVec_and, UInt16.toBitVec_or, BitVec.getLsbD_and,
      BitVec.getLsbD_or] at hi ⊢
    revert hi
    cases b.word.toBitVec.getLsbD i <;> cases baseBits.toBitVec.getLsbD i <;> simp
  cases b
  simp only [ofBits, mk.injEq]
  exact h

def a : Buttons := ofBits 0x0001
def b : Buttons := ofBits 0x0002
def x : Buttons := ofBits 0x0004
def y : Buttons := ofBits 0x0008
def l : Buttons := ofBits 0x0010
def r : Buttons := ofBits 0x0020
def z : Buttons := ofBits 0x0100
def start : Buttons := ofBits 0x0200
def left : Buttons := ofBits 0x0400
def right : Buttons := ofBits 0x0800
def up : Buttons := ofBits 0x1000
def down : Buttons := ofBits 0x2000

/-- Start and Y together, the chord that soft-resets the console. -/
def softReset : Buttons := start ∪ y

def frameHead : UInt8 := 0x80

/-- The three bytes on the wire: head, low byte, high byte. -/
def frame (s : Buttons) : List UInt8 := [frameHead, s.word.toUInt8, (s.word >>> 8).toUInt8]

def ofFrame? : List UInt8 → Option Buttons
  | [head, low, high] =>
    if head = frameHead then some (ofBits (high.toUInt16 <<< 8 ||| low.toUInt16)) else none
  | _ => none

/-- What scripts call the buttons. `Sl` is another name of Y. -/
def symbols : List (String × Buttons) :=
  [("A", a), ("B", b), ("X", x), ("Y", y), ("Z", z), ("L", l), ("R", r), ("St", start), ("Sl", y),
    ("dU", up), ("dD", down), ("dL", left), ("dR", right), ("tl", softReset)]

def ofSymbol? (symbol : String) : Option Buttons := symbols.lookup symbol

/-- A chord is one or more symbols joined by `+`, and holds them all. -/
def ofChord? (chord : String) : Option Buttons :=
  ((chord.toList.splitOnP (· == '+')).mapM fun piece =>
    ofSymbol? (String.ofList piece)).map fun held =>
    held.foldl union released

def names : List (Buttons × String) :=
  [(a, "A"), (b, "B"), (x, "X"), (y, "Y"), (z, "Z"), (l, "L"), (r, "R"), (start, "St"), (up, "dU"),
    (down, "dD"), (left, "dL"), (right, "dR")]

def includes (s other : Buttons) : Bool := s.word &&& other.word == other.word

def «show» (s : Buttons) : String :=
  if s.isReleased then "-"
  else "+".intercalate ((names.filter fun n => s.includes n.1).map (·.2))

end Buttons

end PadScript
