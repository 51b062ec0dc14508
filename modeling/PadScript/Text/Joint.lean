import PadScript.Text.Conjunct
import PadScript.Text.Emoji
import PadScript.Text.Extending
import PadScript.Text.Spacing

/-!
# How characters join

The classes that decide where a text may be cut without dividing what a reader
takes for one character (Unicode property `Grapheme_Cluster_Break`, with the
pictures and the consonants of conjuncts as classes of their own).
-/

namespace PadScript.Text

inductive Joint
  | plain
  | carriageReturn
  | lineFeed
  | control
  | extending
  /-- A mark that ends a conjunct. -/
  | nonJoiner
  | joiner
  | linker
  | spacing
  /-- A sign that belongs to the character after it. -/
  | prepended
  | consonant
  | pictograph
  | flag
  | leading
  | vowel
  | trailing
  /-- A Korean syllable without a trailing part, and one with it. -/
  | openSyllable
  | closedSyllable
  deriving DecidableEq, Repr

namespace Joint

/-- The ranges of code points that stand alone: controls and separators of lines. -/
def controlRanges : Ranges :=
  [(0x0, 0x1f), (0x7f, 0x9f), (0xad, 0xad), (0x61c, 0x61c), (0x180e, 0x180e), (0x200b, 0x200b),
    (0x200e, 0x200f), (0x2028, 0x202e), (0x2060, 0x206f), (0xfeff, 0xfeff), (0xfff0, 0xfffb),
    (0x13430, 0x1343f), (0x1bca0, 0x1bca3), (0x1d173, 0x1d17a), (0xe0000, 0xe001f),
    (0xe0080, 0xe00ff), (0xe01f0, 0xe0fff)]

example : controlRanges.ordered := by decide +kernel

def prependedRanges : Ranges :=
  [(0x600, 0x605), (0x6dd, 0x6dd), (0x70f, 0x70f), (0x890, 0x891), (0x8e2, 0x8e2), (0xd4e, 0xd4e),
    (0x110bd, 0x110bd), (0x110cd, 0x110cd), (0x111c2, 0x111c3), (0x113d1, 0x113d1),
    (0x1193f, 0x1193f), (0x11941, 0x11941), (0x11a84, 0x11a89), (0x11d46, 0x11d46),
    (0x11f02, 0x11f02)]

example : prependedRanges.ordered := by decide +kernel

def leadingRanges : Ranges := [(0x1100, 0x115f), (0xa960, 0xa97c)]

example : leadingRanges.ordered := by decide +kernel

/-- The vowels of Kirat Rai join as those of Korean do. -/
def vowelRanges : Ranges :=
  [(0x1160, 0x11a7), (0xd7b0, 0xd7c6), (0x16d63, 0x16d63), (0x16d67, 0x16d6a)]

example : vowelRanges.ordered := by decide +kernel

def trailingRanges : Ranges := [(0x11a8, 0x11ff), (0xd7cb, 0xd7fb)]

example : trailingRanges.ordered := by decide +kernel

def ofNonAscii (c : Char) : Joint :=
  let n := c.toNat
  if isLinker c then .linker
  else if c = Text.joiner then .joiner
  else if n = 0x200c then .nonJoiner
  else if isExtending c || isSkinColor c then .extending
  else if controlRanges.covers n then .control
  else if isSpacing c then .spacing
  else if prependedRanges.covers n then .prepended
  else if isConsonant c then .consonant
  else if isPictograph c then .pictograph
  else if 0x1f1e6 ≤ n ∧ n ≤ 0x1f1ff then .flag
  else if leadingRanges.covers n then .leading
  else if vowelRanges.covers n then .vowel
  else if trailingRanges.covers n then .trailing
  else if 0xac00 ≤ n ∧ n ≤ 0xd7a3 then
    if (n - 0xac00) % 28 = 0 then .openSyllable else .closedSyllable
  else .plain

def ofChar (c : Char) : Joint :=
  if c = '\r' then .carriageReturn
  else if c = '\n' then .lineFeed
  else if c.toNat < 0x20 then .control
  else if c.toNat < 0x7f then .plain
  else ofNonAscii c

def isMark : Joint → Bool
  | extending | nonJoiner | linker => true
  | _ => false

/-- Whether two neighbours belong together whatever stands before them. -/
def sticks : Joint → Joint → Bool
  | carriageReturn, lineFeed => true
  | carriageReturn, _ | lineFeed, _ | control, _ => false
  | _, carriageReturn | _, lineFeed | _, control => false
  | _, extending | _, nonJoiner | _, linker | _, joiner | _, spacing => true
  | prepended, _ => true
  | leading, leading | leading, vowel | leading, openSyllable | leading, closedSyllable => true
  | openSyllable, vowel | openSyllable, trailing | vowel, vowel | vowel, trailing => true
  | closedSyllable, trailing | trailing, trailing => true
  | _, _ => false

/-- Whether a consonant with a linker after it ends a text, which is given from its end. -/
def endsLinked (before : List Joint) : Bool :=
  let isLink (joint : Joint) : Bool := joint ∈ [extending, joiner, linker]
  (before.takeWhile isLink).contains linker && (before.dropWhile isLink).head? == some consonant

def endsJoined : List Joint → Bool
  | joiner :: before => (before.dropWhile isMark).head? == some pictograph
  | _ => false

def joins : List Joint → Joint → Bool
  | [], _ => false
  | last :: before, next =>
    last.sticks next ||
      match next with
      | consonant => endsLinked (last :: before)
      | pictograph => endsJoined (last :: before)
      | flag => ((last :: before).takeWhile (· == flag)).length % 2 == 1
      | _ => false

end Joint

end PadScript.Text
