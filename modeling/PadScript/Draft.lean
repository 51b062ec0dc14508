import PadScript.Command

/-!
# Reading a script: what has been read so far

The commands of a script are read one after the other. A draft keeps what the
lines read so far have laid down: which timers they start, and which hits they
plan. A reader turns the arguments of a keyword into a command and may change the
draft, also when it fails.
-/

namespace PadScript

inductive Quantity
  | option (letter : Char)
  | waitTime
  | frame
  deriving DecidableEq, Repr

def Quantity.text : Quantity → String
  | option letter => "-" ++ letter.toString
  | waitTime => "wait time [ms]"
  | frame => "frame"

inductive ReadError
  | argumentCount
  | unknownGroup (text : String)
  | unknownButton (symbol : String)
  | malformedOption
  | repeatedOption
  | notNatural (quantity : Quantity)
  | notInteger (quantity : Quantity)
  | notDigit (letter : Char)
  | alreadyStarted (label : Label)
  | notStarted (label : Label)
  | custom (text : String)
  deriving DecidableEq, Repr

def ReadError.message : ReadError → String
  | argumentCount => "invalid number of arguments"
  | unknownGroup text => "unknown button in `" ++ text ++ "`"
  | unknownButton symbol => "unknown button `" ++ symbol ++ "`"
  | malformedOption => "invalid option specifier"
  | repeatedOption => "duplicate option"
  | notNatural quantity => quantity.text ++ " must be a non-negative 32-bit integer"
  | notInteger quantity => quantity.text ++ " must be a 32-bit integer"
  | notDigit letter => "-" ++ letter.toString ++ " must be a single digit"
  | alreadyStarted label => "timer " ++ label.text ++ " is already started"
  | notStarted label =>
    "timer " ++ label.text ++ " not started: Hit must come after the timer's start"
  | custom text => text

structure Draft where
  /-- The 0-based line being read. -/
  line : Nat := 0
  started : Labelled Bool := .constant false
  plan : Array PlannedHit := #[]
  store : Store := {}
  deriving DecidableEq

namespace Draft

def lineNumber (draft : Draft) : Nat := draft.line + 1

def isStarted (draft : Draft) (label : Label) : Bool := draft.started.get label

def setStarted (draft : Draft) (label : Label) : Draft :=
  { draft with started := draft.started.set label true }

def addHit (draft : Draft) (label : Label) (frame : UInt32) : Draft :=
  { draft with plan := draft.plan.push ⟨label, frame⟩ }

@[simp] theorem isStarted_setStarted_self (draft : Draft) (label : Label) :
    (draft.setStarted label).isStarted label = true := by
  simp [isStarted, setStarted]

theorem isStarted_setStarted_of_ne (draft : Draft) {label other : Label} (h : other ≠ label) :
    (draft.setStarted label).isStarted other = draft.isStarted other := by
  simp [isStarted, setStarted, Labelled.get_set_of_ne _ _ h]

@[simp] theorem plan_setStarted (draft : Draft) (label : Label) :
    (draft.setStarted label).plan = draft.plan := rfl

@[simp] theorem plan_addHit (draft : Draft) (label : Label) (frame : UInt32) :
    (draft.addHit label frame).plan = draft.plan.push ⟨label, frame⟩ := rfl

end Draft

/-- A reading that may fail. The draft it leaves is there in both cases. -/
abbrev Reading := ExceptT ReadError (StateM Draft)

abbrev Reader := List String → Reading Command

namespace Reading

/-- Claims a timer for a command that starts it; each timer has one such command. -/
def claim (label : Label) : Reading Unit := do
  if (← get).isStarted label then throw (.alreadyStarted label)
  modify fun draft => draft.setStarted label

end Reading

end PadScript
