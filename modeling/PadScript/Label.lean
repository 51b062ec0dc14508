/-!
# Timer labels

A play has ten labelled timers. Scripts name one by its digit. A `Labelled` has one
value for each of them, and setting one value leaves the others alone.
-/

namespace PadScript

abbrev Label := Fin 10

namespace Label

def all : List Label := List.finRange 10

def ofDigit? (s : String) : Option Label :=
  match s.toList with
  | [c] => if h : '0' ≤ c ∧ c ≤ '9' then some ⟨c.toNat - 48, by
      have h0 := Char.le_def.1 h.2
      have h1 : c.val.toNat ≤ 57 := UInt32.le_iff_toNat_le.1 h0
      have : c.toNat = c.val.toNat := rfl
      omega⟩ else none
  | _ => none

def ofNat? (n : Nat) : Option Label := if h : n < 10 then some ⟨n, h⟩ else none

def text (label : Label) : String := toString label.val

end Label

structure Labelled (α : Type) where
  values : Vector α 10
  deriving DecidableEq

namespace Labelled

variable {α : Type}

def constant (value : α) : Labelled α := ⟨.replicate 10 value⟩

def get (entries : Labelled α) (label : Label) : α := entries.values[label]

def set (entries : Labelled α) (label : Label) (value : α) : Labelled α :=
  ⟨entries.values.set label value⟩

@[simp] theorem get_constant (value : α) (label : Label) : (constant value).get label = value := by
  simp [get, constant]

@[simp] theorem get_set_self (entries : Labelled α) (label : Label) (value : α) :
    (entries.set label value).get label = value := by
  simp [get, set]

theorem get_set_of_ne (entries : Labelled α) {label other : Label} (value : α) (h : other ≠ label) :
    (entries.set label value).get other = entries.get other := by
  have h : label.val ≠ other.val := fun e => h (Fin.ext e.symm)
  simp [get, set, Vector.getElem_set_ne, h]

end Labelled

end PadScript
