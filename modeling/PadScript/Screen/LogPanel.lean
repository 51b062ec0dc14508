import PadScript.Log
import PadScript.Screen.Border
import PadScript.Screen.Folding
import PadScript.Text.Integer

/-!
# The log on the screen

A record is shown as its time, a word for its level if it is a warning or an
error, its tag and its message. The panel shows a window of the records, the
newest ones unless it has been scrolled back; long lines are folded.
-/

namespace PadScript.Screen

def colorOfNumber (number : Nat) : Color :=
  if number = Palette.gray.toNat then .darkGray
  else if number = Palette.blue.toNat then .lightBlue
  else if number = Palette.green.toNat then .lightGreen
  else .white

def levelSpans (level : String) : List Span :=
  if level = LogLevel.error.text then [⟨"error ", .color .red⟩]
  else if level = LogLevel.warn.text then [⟨"warn ", .color .yellow⟩]
  else []

def recordLine (record : LogRecord) : Line :=
  let color := colorOfNumber ((Text.below? 256 record.color).getD 0)
  let tag := if record.tag.isEmpty then []
    else [⟨record.tag, { Style.color color with bold := true }⟩, ⟨" ", .plain⟩]
  [⟨record.time, .color .darkGray⟩, ⟨" ", .plain⟩] ++ levelSpans record.level ++ tag ++
    [⟨record.message, .color color⟩]

def logLine (text : String) : Line :=
  match LogRecord.ofText? text with
  | some record => recordLine record
  | none => (linesOf text).map fun line => ⟨line, .plain⟩

/-- Where the window of `rows` messages begins that ends `scroll` messages before the
newest, or at the oldest ones if there are not so many. -/
def windowStart (total rows scroll : Nat) : Nat := total - (rows + min scroll (total - rows))

def windowEnd (total rows scroll : Nat) : Nat := total - min scroll (total - rows)

def logWindow {α : Type} (messages : List α) (rows scroll : Nat) : List α :=
  messages.extract (windowStart messages.length rows scroll)
    (windowEnd messages.length rows scroll)

def logBorder : Border := ⟨.color .yellow, some " Logs "⟩

def messageRows (width : Nat) (message : String) : List (List Glyph) :=
  fold width (Line.glyphs (logLine message))

/-- The rows of the panel from the top, more than there may be room for. -/
def logRows (messages : List String) (width height scroll : Nat) : List (List Glyph) :=
  (logWindow messages height scroll).flatMap (messageRows width)

def drawLog (messages : List String) (scroll : Nat) (area : Area) (canvas : Canvas) : Canvas :=
  let inner := logBorder.inner area
  (logBorder.draw area canvas).drawRows inner
    (logRows messages inner.width (area.height - 2) scroll)

end PadScript.Screen
