import PadScript.Progress
import PadScript.Screen.Border
import PadScript.Screen.Status
import PadScript.Session
import PadScript.Text.Words

/-!
# The listing

A banner with the state of the session and, below it, a help line, the script's
name, the status and the source. The current line is marked and kept in view.
-/

namespace PadScript.Screen

def banner : SessionState → String × Color
  | .running => ("RUNNING (Press S to stop)", .green)
  | .stopping => ("STOPPING...", .yellow)
  | .idle => ("IDLE (Press R to run)", .red)

def currentStyle (state : SessionState) : Style :=
  { foreground := some .black, background := some (banner state).2, bold := true }

def drawBanner (state : SessionState) (area : Area) (canvas : Canvas) : Canvas :=
  let text := (banner state).1
  let padding := area.width - text.length
  let spaces (n : Nat) := String.ofList (List.replicate n ' ')
  let padded := spaces (padding / 2) ++ text ++ spaces (padding - padding / 2)
  let line : Line := [⟨padded, currentStyle state⟩]
  canvas.drawRows area [fit area.width line.glyphs]

def keyLine : Line :=
  [⟨" c", .color .yellow⟩, ⟨" compile, ", .plain⟩, ⟨"r", .color .yellow⟩, ⟨"/", .plain⟩,
    ⟨"l", .color .yellow⟩, ⟨" run once/loop, ", .plain⟩, ⟨"s", .color .yellow⟩, ⟨" stop, ", .plain⟩,
    ⟨"v", .color .yellow⟩, ⟨" logs:", .plain⟩]

def headerLines (session : Session) (status : String) : List Line :=
  [keyLine,
    [⟨" " ++ session.path.getD "(no macro)", { foreground := some .white, bold := true }⟩],
    [⟨" " ++ status, .color .cyan⟩]] ++
    (session.error.map fun error => [⟨" err: " ++ error, .color .red⟩]).toList ++ [[]]

def lineNumber (n : Nat) : String :=
  let digits := toString n
  String.ofList (List.replicate (3 - digits.length) ' ') ++ digits ++ " "

def sourceLine (state : SessionState) (current : Option Nat) (text : String) (index : Nat) : Line :=
  let isCurrent := current == some index
  let style :=
    if isCurrent then currentStyle state
    else if (Text.trimStart text.toList).head? == some '#' then .color .darkGray
    else .color .white
  [⟨if isCurrent then "> " else "  ", .plain⟩, ⟨lineNumber (index + 1), .color .darkGray⟩,
    ⟨text, style⟩]

/-- The source line whose command is under way. -/
def currentLine? (progress : Progress) : Option Nat :=
  if progress.line < 0 then none else some progress.line.toInt.toNat

/-- How many lines are scrolled out at the top of a listing of so many rows. The
current line is put in the middle once it would be below it. -/
def listingScroll (header : Nat) (current : Option Nat) (rows : Nat) : Nat :=
  match current with
  | some line => min (header + line - rows / 2) 65535
  | none => 0

def listingBorder : Border := ⟨.color .cyan, none⟩

def listingHeader (session : Session) (progress : Progress) (now : Time) : List Line :=
  let plan := (session.script.map (·.plan)).getD #[]
  headerLines session (statusLine progress.pass session.passes (progress.remainingFrames? plan now))

def listingLines (session : Session) (progress : Progress) (now : Time) : List Line :=
  listingHeader session progress now ++ session.source.mapIdx fun index text =>
    sourceLine session.state (currentLine? progress) text index

def drawListing (session : Session) (progress : Progress) (now : Time) (area : Area)
    (canvas : Canvas) : Canvas :=
  let header := listingHeader session progress now
  let inner := listingBorder.inner area
  let scroll := listingScroll header.length (currentLine? progress) (area.height - 1)
  let shown := ((listingLines session progress now).drop scroll).take inner.height
  (listingBorder.draw area canvas).drawRows inner
    (shown.map fun line => fit inner.width line.glyphs)

end PadScript.Screen
