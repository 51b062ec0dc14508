/-!
# The store that commands share

Commands of one reading or of one play may leave values for each other under a
key. Integers, texts and handles are kept apart, so that one key may hold one of
each.
-/

namespace PadScript

/-- Values under text keys. A key holds at most one value. -/
structure Entries (α : Type) where
  pairs : List (String × α) := []
  deriving DecidableEq, Repr

namespace Entries

variable {α : Type}

def get? (entries : Entries α) (key : String) : Option α := entries.pairs.lookup key

def insert (entries : Entries α) (key : String) (value : α) : Entries α :=
  ⟨(key, value) :: entries.pairs.filter (·.1 != key)⟩

def isEmpty (entries : Entries α) : Bool := entries.pairs.isEmpty

@[simp] theorem get?_insert_self (entries : Entries α) (key : String) (value : α) :
    (entries.insert key value).get? key = some value := by simp [get?, insert]

theorem lookup_filter_of_ne {κ : Type} [BEq κ] [LawfulBEq κ] {pairs : List (κ × α)}
    {key other : κ} (h : other ≠ key) :
    (pairs.filter (·.1 != key)).lookup other = pairs.lookup other := by
  induction pairs with
  | nil => rfl
  | cons pair rest ih =>
    by_cases hk : pair.1 = key
    · have ho : (other == pair.1) = false := by simpa [hk] using h
      rw [List.lookup_cons, ho]
      simpa [List.filter_cons, hk] using ih
    · rw [List.filter_cons_of_pos (by simpa using hk), List.lookup_cons, List.lookup_cons, ih]

theorem get?_insert_of_ne (entries : Entries α) {key other : String} (value : α) (h : other ≠ key) :
    (entries.insert key value).get? other = entries.get? other := by
  have hk : (other == key) = false := by simpa using h
  rw [get?, insert, List.lookup_cons, hk]
  exact lookup_filter_of_ne h

theorem isEmpty_insert (entries : Entries α) (key : String) (value : α) :
    (entries.insert key value).isEmpty = false := rfl

end Entries

inductive Handle
  | numbers (values : List Int)
  | text (value : String)
  deriving DecidableEq, Repr

structure Store where
  ints : Entries Int64 := {}
  texts : Entries String := {}
  handles : Entries Handle := {}
  deriving DecidableEq

namespace Store

def int? (store : Store) (key : String) : Option Int64 := store.ints.get? key

def setInt (store : Store) (key : String) (value : Int64) : Store :=
  { store with ints := store.ints.insert key value }

def text? (store : Store) (key : String) : Option String := store.texts.get? key

def setText (store : Store) (key value : String) : Store :=
  { store with texts := store.texts.insert key value }

def handle? (store : Store) (key : String) : Option Handle := store.handles.get? key

/-- A key holds one handle, whatever its shape. -/
def setHandle (store : Store) (key : String) (handle : Handle) : Store :=
  { store with handles := store.handles.insert key handle }

/-- The list under a key; `none` when the key holds no handle or a text. -/
def numbers? (store : Store) (key : String) : Option (List Int) :=
  match store.handle? key with
  | some (.numbers values) => some values
  | _ => none

def textHandle? (store : Store) (key : String) : Option String :=
  match store.handle? key with
  | some (.text value) => some value
  | _ => none

def push? (store : Store) (key : String) (value : Int) : Option (Store × Nat) := do
  let values ← store.numbers? key
  let values := values ++ [value]
  return (store.setHandle key (.numbers values), values.length)

def append? (store : Store) (key value : String) : Option (Store × String) := do
  let text ← store.textHandle? key
  let text := text ++ value
  return (store.setHandle key (.text text), text)

def isEmpty (store : Store) : Bool :=
  store.ints.isEmpty && store.texts.isEmpty && store.handles.isEmpty

@[simp] theorem int?_setInt_self (store : Store) (key : String) (value : Int64) :
    (store.setInt key value).int? key = some value := by simp [int?, setInt]

theorem int?_setInt_of_ne (store : Store) {key other : String} (value : Int64) (h : other ≠ key) :
    (store.setInt key value).int? other = store.int? other := by
  simp [int?, setInt, Entries.get?_insert_of_ne _ value h]

@[simp] theorem text?_setInt (store : Store) (key other : String) (value : Int64) :
    (store.setInt key value).text? other = store.text? other := rfl

end Store

end PadScript
