import PadScript.Text.Words

/-!
# The log

An entry has a level, the part of the program it comes from (the tag, empty for
none) and a message. It is written as a line of the log file, and sent to the
screen as a text of five fields. `LogRecord.ofText?` reads what `LogEntry.record`
writes.
-/

namespace PadScript

inductive LogLevel
  | info
  | warn
  | error
  deriving DecidableEq, Repr

def LogLevel.text : LogLevel → String
  | .info => "INFO"
  | .warn => "WARN"
  | .error => "ERROR"

structure TimeOfDay where
  hour : Nat
  minute : Nat
  second : Nat
  deriving DecidableEq, Repr

def TimeOfDay.text (time : TimeOfDay) : String :=
  let two (n : Nat) := String.ofList [Nat.digitChar (n / 10 % 10), Nat.digitChar (n % 10)]
  two time.hour ++ ":" ++ two time.minute ++ ":" ++ two time.second

structure LogEntry where
  level : LogLevel
  tag : String
  message : String
  deriving DecidableEq, Repr

structure Palette where
  colors : List (String × UInt8) := []
  deriving DecidableEq, Repr

namespace Palette

def gray : UInt8 := 1
def blue : UInt8 := 2
def green : UInt8 := 3

def color (palette : Palette) (tag : String) : UInt8 := (palette.colors.lookup tag).getD 0

def register (palette : Palette) (tag : String) (color : UInt8) : Palette :=
  ⟨(tag, color) :: palette.colors⟩

@[simp] theorem color_register_self (palette : Palette) (tag : String) (color : UInt8) :
    (palette.register tag color).color tag = color := by simp [Palette.color, register]

theorem color_register_of_ne (palette : Palette) {tag other : String} (color : UInt8)
    (h : other ≠ tag) :
    (palette.register tag color).color other = palette.color other := by
  have h : (other == tag) = false := by simpa using h
  simp [Palette.color, register, List.lookup_cons, h]

end Palette

namespace LogEntry

def fileLine (entry : LogEntry) (time : TimeOfDay) : String :=
  let tag := if entry.tag.isEmpty then "" else "[" ++ entry.tag ++ "] "
  "[" ++ time.text ++ "] [" ++ entry.level.text ++ "] " ++ tag ++ entry.message

def fieldSeparator : Char := '\x1f'

def fields (entry : LogEntry) (palette : Palette) (time : TimeOfDay) : List String :=
  [entry.level.text, entry.tag, toString (palette.color entry.tag).toNat, time.text, entry.message]

def record (entry : LogEntry) (palette : Palette) (time : TimeOfDay) : String :=
  fieldSeparator.toString.intercalate (entry.fields palette time)

end LogEntry

structure LogRecord where
  level : String
  tag : String
  color : String
  time : String
  message : String
  deriving DecidableEq, Repr

/-- Reads a record. The message is the rest after four separators and may hold more of them. -/
def LogRecord.ofText? (text : String) : Option LogRecord :=
  match (Text.cut LogEntry.fieldSeparator 4 text.toList).map String.ofList with
  | [level, tag, color, time, message] => some ⟨level, tag, color, time, message⟩
  | _ => none

end PadScript
