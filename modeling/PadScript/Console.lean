import PadScript.App
import PadScript.Screen.Terminal

/-!
# The screen program on a terminal

In each turn the program takes over the log records that have arrived, draws, and
then handles one event, so that what is shown is how things stood before it. It takes one
turn after the other until an event makes it quit.
-/

namespace PadScript

structure Console where
  app : App
  terminal : Screen.Terminal

namespace Console

def fresh (settings : Settings) (width height : Nat) : Console :=
  ⟨{ settings }, .blank width height⟩

def refresh (console : Console) (records : List String) (session : Session) (progress : Progress)
    (now : Time) : Console :=
  let app := console.app.receive records
  let terminal := console.terminal
  let canvas := app.draw session progress now terminal.width terminal.height
  { app, terminal := terminal.draw canvas }

def turn (console : Console) (records : List String) (session : Session) (progress : Progress)
    (now : Time) (event : TerminalEvent) : Console × List App.Effect :=
  let console := console.refresh records session progress now
  let (app, effects) := console.app.handle session event
  ({ console with app }, effects)

/-- What a turn of the loop finds: the log records that have arrived, how things stand, and
the event that it waits for, which is `other` if none comes in time. -/
structure Input where
  records : List String := []
  session : Session
  progress : Progress := {}
  now : Time := 0
  event : TerminalEvent

/-- What a loop leaves when it returns, or has handled every event there is. -/
structure Looped where
  console : Console
  effects : List App.Effect
  unread : List Input

def handle (console : Console) (input : Input) : Console × List App.Effect :=
  console.turn input.records input.session input.progress input.now input.event

/-- One turn after the other; the loop returns before the first one that finds it quitting. -/
def loop (console : Console) : List Input → Looped
  | [] => ⟨console, [], []⟩
  | input :: rest =>
    if console.app.quitting then ⟨console, [], input :: rest⟩
    else
      let looped := (console.handle input).1.loop rest
      { looped with effects := (console.handle input).2 ++ looped.effects }

end Console

end PadScript
