import PadScript.Reader
import PadScript.Text.Quoted
import PadScript.Text.Words

/-!
# Keywords and their readers

The built-in keywords are always there. An extension adds a keyword that can
stand at the head of a line and that nobody could take for a built-in one; it is
never replaced. Keywords are kept in the order of their code points.
-/

namespace PadScript

def reservedKeywords : List String := ["Press", "Wait", "Start", "Hit"]

inductive RegistryError
  | invalidName (name : String)
  | reserved (name : String)
  | duplicate (name : String)
  deriving DecidableEq, Repr

def RegistryError.message : RegistryError → String
  | invalidName name => "`" ++ name ++ "` is not a usable command name"
  | reserved name => "`" ++ name ++ "` is a reserved command name"
  | duplicate name => "command `" ++ name ++ "` is already registered"

/-- Whether a name can be the first token of a line. -/
def isUsableName (name : String) : Bool :=
  match name.toList with
  | [] => false
  | first :: rest => first != '#' && !(first :: rest).any Text.isBlank

def eqIgnoringCase (name other : String) : Bool :=
  name.toList.map Char.toLower == other.toList.map Char.toLower

structure Registry where
  entries : List (String × Reader)

namespace Registry

def builtin : Registry :=
  ⟨[("Hit", Hit.read), ("Press", Press.read), ("Start", Start.read), ("Wait", Wait.read)]⟩

instance : Inhabited Registry := ⟨builtin⟩

def get? (registry : Registry) (name : String) : Option Reader := registry.entries.lookup name

def contains (registry : Registry) (name : String) : Bool := (registry.get? name).isSome

def names (registry : Registry) : List String := registry.entries.map (·.1)

def extensionNames (registry : Registry) : List String :=
  registry.names.filter (· ∉ reservedKeywords)

def description (registry : Registry) : String := Text.quotedList registry.names

/-- Puts an entry before the first one with a greater keyword. -/
def insertEntry (name : String) (reader : Reader) : List (String × Reader) → List (String × Reader)
  | [] => [(name, reader)]
  | entry :: rest =>
    if name < entry.1 then (name, reader) :: entry :: rest
    else entry :: insertEntry name reader rest

def register (registry : Registry) (name : String) (reader : Reader) :
    Except RegistryError Registry :=
  if !isUsableName name then .error (.invalidName name)
  else if reservedKeywords.any (eqIgnoringCase name) then .error (.reserved name)
  else if registry.contains name then .error (.duplicate name)
  else .ok ⟨insertEntry name reader registry.entries⟩

theorem lookup_insertEntry_self {name : String} (reader : Reader) {entries : List (String × Reader)}
    (h : entries.lookup name = none) :
    (insertEntry name reader entries).lookup name = some reader := by
  induction entries with
  | nil => simp [insertEntry]
  | cons entry rest ih =>
    rw [List.lookup_cons] at h
    split at h
    · simp at h
    · rename_i hne
      rw [insertEntry]
      split
      · simp
      · rw [List.lookup_cons, hne]
        exact ih h

theorem lookup_insertEntry_of_ne {name other : String} (reader : Reader)
    (entries : List (String × Reader)) (h : other ≠ name) :
    (insertEntry name reader entries).lookup other = entries.lookup other := by
  have hne : (other == name) = false := by simpa using h
  induction entries with
  | nil => simp [insertEntry, List.lookup_cons, hne]
  | cons entry rest ih =>
    rw [insertEntry]
    split
    · rw [List.lookup_cons, hne]
    · rw [List.lookup_cons, List.lookup_cons, ih]

end Registry

end PadScript
