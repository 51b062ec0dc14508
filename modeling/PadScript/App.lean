import PadScript.Screen.Dialog
import PadScript.Screen.Listing
import PadScript.Screen.LogPanel
import PadScript.Settings

/-!
# The screen program

It turns keys into requests to a host and shows what the host shares. Keys go to
the dialog while one is open. The first request to quit is the last request, and
with it the settings are saved; nothing is handled after it.
-/

namespace PadScript

inductive Key
  | char (c : Char)
  | left
  | right
  | tab
  | enter
  | escape
  | other
  deriving DecidableEq, Repr

inductive TerminalEvent
  | key (key : Key)
  /-- A key is released or repeats. -/
  | keyAgain (key : Key)
  | wheelUp
  | wheelDown
  /-- Another use of the mouse, a change of size or focus, or a paste. -/
  | other
  deriving DecidableEq, Repr

structure App where
  settings : Settings := {}
  logVisible : Bool := true
  logs : Array String := #[]
  /-- How many messages the log is scrolled back by, which may be more than there are. -/
  logScroll : Nat := 0
  dialog : Option Screen.Dialog := none
  quitting : Bool := false

namespace App

inductive Effect
  | send (request : Request)
  | log (entry : LogEntry)
  /-- Saves the settings, and logs if that fails. -/
  | save (settings : Settings)
  deriving DecidableEq, Repr

def receive (app : App) (records : List String) : App := { app with logs := app.logs ++ records }

def maxScroll : Nat := UInt64.size - 1

def scrollUp (app : App) (n : Nat) : App :=
  { app with logScroll := min (app.logScroll + n) maxScroll }

def scrollDown (app : App) (n : Nat) : App := { app with logScroll := app.logScroll - n }

def wheelStep : Nat := 3

def quit (app : App) : App × List Effect :=
  ({ app with quitting := true }, [.save app.settings, .send .quit])

def question : String := "A macro is running. Quit?"

def requestQuit (app : App) (session : Session) : App × List Effect :=
  if session.isRunning then ({ app with dialog := some { message := question } }, []) else app.quit

def answer (app : App) (yes : Bool) : App × List Effect :=
  let app := { app with dialog := none }
  if yes then app.quit else (app, [])

def recompile (app : App) (session : Session) : App × List Effect :=
  match session.path <|> app.settings.scriptPath with
  | none => (app, [.log ⟨.warn, "", "no macro file configured"⟩])
  | some path =>
    ({ app with settings := { app.settings with scriptPath := some path } },
      [.send (.compile path)])

def dialogKey (app : App) (dialog : Screen.Dialog) (key : Key) : App × List Effect :=
  match key with
  | .left | .right | .tab => ({ app with dialog := some dialog.toggle }, [])
  | .enter => app.answer dialog.yes
  | .char 'y' | .char 'Y' => app.answer true
  | .escape | .char 'n' | .char 'N' => app.answer false
  | _ => (app, [])

def mainKey (app : App) (session : Session) (key : Key) : App × List Effect :=
  match key with
  | .char 'q' | .char 'Q' => app.requestQuit session
  | .char 'c' | .char 'C' => app.recompile session
  | .char 'r' | .char 'R' => (app, [.send .runOnce])
  | .char 'l' | .char 'L' => (app, [.send (.runLoop app.settings.loopTimes)])
  | .char 's' | .char 'S' => (app, [.send .cancel])
  | .char 'v' | .char 'V' => ({ app with logVisible := !app.logVisible }, [])
  | _ => (app, [])

def handle (app : App) (session : Session) (event : TerminalEvent) : App × List Effect :=
  if app.quitting then (app, [])
  else match event with
    | .key key =>
      match app.dialog with
      | some dialog => app.dialogKey dialog key
      | none => app.mainKey session key
    | .wheelUp => (app.scrollUp wheelStep, [])
    | .wheelDown => (app.scrollDown wheelStep, [])
    | .keyAgain _ | .other => (app, [])

def handleAll (app : App) : List (Session × TerminalEvent) → App × List Effect
  | [] => (app, [])
  | (session, event) :: rest =>
    let (app, effects) := app.handle session event
    let (app, more) := app.handleAll rest
    (app, effects ++ more)

/-- The part of a screen for the listing and the part for the log, which has no columns
while the log is hidden. -/
def panels (app : App) (width height : Nat) : Screen.Area × Screen.Area :=
  let screen : Screen.Area := ⟨0, 0, width, height⟩
  if app.logVisible then screen.splitColumns 60 else (screen, ⟨width, 0, 0, height⟩)

open Screen in
def draw (app : App) (session : Session) (progress : Progress) (now : Time) (width height : Nat) :
    Canvas :=
  let (left, right) := app.panels width height
  let canvas := drawBanner session.state (left.row 0) (.blank width height)
  let canvas := drawListing session progress now (left.below 1) canvas
  let canvas :=
    if app.logVisible then drawLog app.logs.toList app.logScroll right canvas else canvas
  match app.dialog with
  | some dialog => dialog.draw ⟨0, 0, width, height⟩ canvas
  | none => canvas

variable {m : Type → Type} [Monad m] [FileSystem m]

def save (settings : Settings) (path : String) : m (List LogEntry) := do
  match ← settings.save path with
  | .ok () => return []
  | .error report => return [⟨.error, "", report.line⟩]

end App

end PadScript
