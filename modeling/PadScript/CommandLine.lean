import PadScript.Text.Integer

/-!
# The command line

Options may stand before or after the subcommand, each at most once in either
place; after the subcommand they win. `--loop` takes any next argument as its
value, the other options none that looks like an option. `--macro` stands before
the subcommand only.
-/

namespace PadScript

inductive ArgumentError
  | help
  | usage
  deriving DecidableEq, Repr

inductive ValueOption
  | device
  | loop
  | script
  deriving DecidableEq, Repr

structure GivenOptions where
  recordOnly : Bool := false
  device : Option String := none
  loopTimes : Option Int32 := none
  scriptPath : Option String := none
  deriving DecidableEq, Repr

inductive Subcommand
  | check
  | run
  deriving DecidableEq, Repr

structure CommandLine where
  options : GivenOptions
  /-- The subcommand and its file; `none` asks for the screen. -/
  command : Option (Subcommand × String)
  deriving DecidableEq, Repr

namespace CommandLine

structure Reading where
  before : GivenOptions := {}
  after : GivenOptions := {}
  command : Option Subcommand := none
  file : Option String := none
  awaiting : Option ValueOption := none
  /-- After `--` nothing is an option any more. -/
  onlyFiles : Bool := false
  helpOn : Option (List String) := none

def Reading.given (reading : Reading) : GivenOptions :=
  if reading.command.isSome then reading.after else reading.before

def Reading.setGiven (reading : Reading) (given : GivenOptions) : Reading :=
  if reading.command.isSome then { reading with after := given }
  else { reading with before := given }

def looksLikeOption (arg : String) : Bool :=
  match arg.toList with
  | '-' :: _ :: _ => true
  | _ => false

def path? (value : String) : Option String := if value.isEmpty then none else some value

def setValue (reading : Reading) (option : ValueOption) (value : String) :
    Except ArgumentError Reading :=
  let given := reading.given
  let set (free : Bool) (next : Option GivenOptions) : Except ArgumentError Reading :=
    match free, next with
    | true, some given => .ok { reading.setGiven given with awaiting := none }
    | _, _ => .error .usage
  match option with
  | .device => set given.device.isNone ((path? value).map fun path => { given with device := path })
  | .loop =>
    set given.loopTimes.isNone ((Text.int32? value).map fun n => { given with loopTimes := n })
  | .script =>
    set given.scriptPath.isNone ((path? value).map fun path => { given with scriptPath := path })

def readLong (reading : Reading) (name : String) (value : Option String) :
    Except ArgumentError Reading :=
  let valued (option : ValueOption) : Except ArgumentError Reading :=
    match value with
    | some value => setValue reading option value
    | none => .ok { reading with awaiting := some option }
  match name with
  | "device" => valued .device
  | "loop" => valued .loop
  | "macro" => if reading.command.isSome then .error .usage else valued .script
  | "stub" =>
    let given := reading.given
    if given.recordOnly || value.isSome then .error .usage
    else .ok (reading.setGiven { given with recordOnly := true })
  | "help" => .error (if value.isSome then .usage else .help)
  | "version" => .error (if value.isSome || reading.command.isSome then .usage else .help)
  | _ => .error .usage

def readPlain (reading : Reading) (arg : String) : Except ArgumentError Reading :=
  match reading.command with
  | none =>
    if reading.onlyFiles then .error .usage
    else match arg with
      | "check" => .ok { reading with command := some .check }
      | "run" => .ok { reading with command := some .run }
      | "help" => .ok { reading with helpOn := some [] }
      | _ => .error .usage
  | some _ =>
    match reading.file, path? arg with
    | none, some path => .ok { reading with file := some path }
    | _, _ => .error .usage

def readArgument (reading : Reading) (arg : String) : Except ArgumentError Reading :=
  match reading.helpOn, reading.awaiting with
  | some names, _ => .ok { reading with helpOn := some (names ++ [arg]) }
  | none, some .loop => setValue reading .loop arg
  | none, some option => if looksLikeOption arg then .error .usage else setValue reading option arg
  | none, none =>
    if reading.onlyFiles then readPlain reading arg
    else match arg.toList with
      | ['-', '-'] => .ok { reading with onlyFiles := true }
      | '-' :: '-' :: long =>
        match long.span (· != '=') with
        | (name, []) => readLong reading (String.ofList name) none
        | (name, _ :: value) => readLong reading (String.ofList name) (some (String.ofList value))
      | '-' :: 'h' :: _ => .error .help
      | '-' :: 'V' :: _ => .error (if reading.command.isSome then .usage else .help)
      | '-' :: _ :: _ => .error .usage
      | _ => readPlain reading arg

def hasHelp : List String → Bool
  | [] => true
  | [name] => name ∈ ["check", "run", "help"]
  | _ => false

def mergeOptions (before after : GivenOptions) : GivenOptions where
  recordOnly := before.recordOnly || after.recordOnly
  device := after.device <|> before.device
  loopTimes := after.loopTimes <|> before.loopTimes
  scriptPath := before.scriptPath

def ofArguments (args : List String) : Except ArgumentError CommandLine := do
  let reading ← args.foldlM readArgument {}
  if let some names := reading.helpOn then throw (if hasHelp names then .help else .usage)
  if reading.awaiting.isSome then throw .usage
  let options := mergeOptions reading.before reading.after
  match reading.command, reading.file with
  | none, _ => return { options, command := none }
  | some command, some file => return { options, command := some (command, file) }
  | some _, none => throw .usage

end CommandLine

end PadScript
