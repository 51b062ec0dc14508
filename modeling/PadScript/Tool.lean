import PadScript.CommandLine
import PadScript.Drive
import PadScript.Output
import PadScript.Settings
import PadScript.SoftReset

/-!
# The program on the command line

It checks a script, or plays one on an output. `Tool.ofArguments` does what comes
before the first action of a play, `Tool.step` one action. Settings come from a
file beside the scripts, and options override them. The log is a file of its own.
-/

namespace PadScript

class Platform (m : Type → Type) extends FileSystem m where
  /-- The absolute path of the folder in which the program was started. -/
  workFolder : m String
  appendText (path text : String) : m (Except Fault Unit)
  timeOfDay : m TimeOfDay
  outside : m Outside
  /-- Lets some time pass, until the deadline at most. -/
  rest (deadline : Time) : m Unit
  print (text : String) : m Unit
  printError (text : String) : m Unit

structure Journal where
  path : String
  echo : Bool := false

variable {m : Type → Type} [Monad m] [Platform m]

namespace Journal

def note (journal : Journal) (entry : LogEntry) : m Unit := do
  let line := entry.fileLine (← Platform.timeOfDay) ++ "\n"
  let _ ← Platform.appendText (m := m) journal.path line
  if journal.echo then Platform.printError line

def noteAll (journal : Journal) (entries : List LogEntry) : m Unit := entries.forM journal.note

end Journal

inductive Tool (δ : Type)
  | exited (status : UInt32)
  | driving (journal : Journal) (output : Output δ) (drive : Drive)

namespace Tool

def tag : String := "macro"

def logFolder : String := "logs"

def logFile : String := "orca.log"

def settingsFile : String := "settings.json"

abbrev Device (m : Type → Type) [Platform m] : Type := FileSystem.Device m

def fail (report : Report) : m (Tool (Device m)) := do
  Platform.printError ("Error: " ++ report.text ++ "\n")
  return .exited 1

def registry : Registry := Registry.builtin.registerReset.toOption.getD .builtin

def readScript (path : String) : m (Except Report Script) := do
  match ← FileSystem.readText path with
  | .error fault => return .error ((Report.ofFault fault).within ("failed to read " ++ path))
  | .ok source =>
    match Script.ofText registry source with
    | .error error => return .error ⟨[path ++ " does not compile"], error.message⟩
    | .ok script => return .ok script

def check (path : String) : m (Tool (Device m)) := do
  match ← readScript path with
  | .error report => fail report
  | .ok script =>
    Platform.print (path ++ ": " ++ toString script.size ++ " command(s), " ++
      toString script.plan.size ++ " planned hit(s)\n")
    return .exited 0

/-- Begins to play the script at `path`. The script is read before the output is opened. -/
def play (journal : Journal) (settings : Settings) (folder path : String) :
    m (Tool (Device m)) := do
  let journal := { journal with echo := true }
  match ← readScript path with
  | .error report => fail report
  | .ok script =>
    let (opened, entries) ← Output.open settings.device settings.recordOnly folder
    journal.noteAll entries
    match opened with
    | .error report => fail report
    | .ok output =>
      journal.note ⟨.info, tag, "running " ++ path ++ " (Ctrl-C to stop)"⟩
      let goal := match settings.passes with
        | some count => Goal.repeated count
        | none => .once
      return .driving journal output (.playing (Play.start script goal {}))

/-- The settings with the options in their place. A number of passes asks for a loop. -/
def override (settings : Settings) (options : GivenOptions) : Settings where
  scriptPath := options.scriptPath <|> settings.scriptPath
  device := options.device <|> settings.device
  recordOnly := settings.recordOnly || options.recordOnly
  loopEnabled := settings.loopEnabled || options.loopTimes.isSome
  loopTimes := options.loopTimes.getD settings.loopTimes

def openJournal (folder : String) : m (Except Report Journal) := do
  match ← FileSystem.makeFolders (m := m) folder with
  | .error fault => return .error (.ofFault fault)
  | .ok () =>
    let path := folder ++ "/" ++ logFile
    match ← FileSystem.writeText (m := m) path "" with
    | .error fault => return .error (.ofFault fault)
    | .ok () => return .ok { path }

def noTerminal : Report := ⟨[], "no terminal for the screen"⟩

/-- What the arguments ask for. Arguments that make no sense leave no trace. -/
def ofArguments (args : List String) : m (Tool (Device m)) := do
  match CommandLine.ofArguments args with
  | .error .help => return .exited 0
  | .error .usage => return .exited 2
  | .ok line =>
    let workFolder ← Platform.workFolder
    let folder := workFolder ++ "/" ++ logFolder
    match ← openJournal folder with
    | .error report => fail report
    | .ok journal =>
      let settings := override (← Settings.read (workFolder ++ "/" ++ settingsFile)) line.options
      match line.command with
      | some (.check, path) => check path
      | some (.run, path) => play journal settings folder path
      | none => fail noTerminal

def writePending (journal : Journal) (output : Output (Device m)) (play : Play) :
    m (Output (Device m) × Option Fault) := do
  match play.pendingWrite? with
  | none => return (output, none)
  | some bytes =>
    let (written, entries) ← output.write bytes
    journal.noteAll entries
    match written with
    | .ok output => return (output, none)
    | .error fault => return (output, some fault)

def step : Tool (Device m) → m (Tool (Device m))
  | exited status => return exited status
  | driving journal output (.playing play) => do
    if let some deadline := play.deadline? then Platform.rest deadline
    let (output, refusal) ← writePending journal output play
    let (drive, event) := (Drive.playing play).advance { ← Platform.outside with refusal } none
    if let some (.logged entry) := event then journal.note entry
    return driving journal output drive
  | driving journal output (.closing result) => do
    let (closed, entries) ← output.close
    journal.noteAll entries
    let failure := match closed with
      | .ok _ => none
      | .error report => some report
    let (drive, _) := (Drive.closing result).advance { ← Platform.outside with } failure
    return driving journal output drive
  | driving journal _ (.finished result) => do
    match result with
    | .error report => fail report
    | .ok outcome =>
      journal.note ⟨.info, tag, match outcome with
        | .completed => "macro finished"
        | .interrupted => "interrupted"⟩
      return exited 0

end Tool

end PadScript
