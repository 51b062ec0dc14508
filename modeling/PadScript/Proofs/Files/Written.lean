import PadScript.Sandbox
import PadScript.Store

/-!
# What is read after a write

Writing puts one file where there was no folder. The folders on the way to it are those
that were there before, so its path leads to it afterwards (`resolve_put`), and its text
is what was written.
-/

namespace PadScript

namespace Files

variable {files changed : Files} {parts other : List String} {path text : String}

theorem node?_put_self (hne : parts ≠ []) (node : Node) :
    (files.put parts node).node? parts = some node := by
  simp [node?, put, hne]

theorem node?_put_of_ne (h : other ≠ parts) (node : Node) :
    (files.put parts node).node? other = files.node? other := by
  have hother : (other == parts) = false := beq_false_of_ne h
  simp [node?, put, List.lookup_cons, hother, Entries.lookup_filter_of_ne h]

theorem walk_put (hfree : files.node? parts ≠ some .folder) (node : Node) {way found : List String}
    {here : List String} (h : files.walk here way = .ok found) :
    (files.put parts node).walk here way = .ok found := by
  induction way generalizing here with
  | nil => exact h
  | cons part way ih =>
    rw [walk] at h ⊢
    split at h
    · cases h
    · cases h
    · rename_i hfolder
      have hne : here ≠ parts := by
        rintro rfl
        exact hfree hfolder
      rw [node?_put_of_ne hne, hfolder]
      split at h <;> rename_i hstay
      · simpa only [if_pos hstay] using ih h
      · simp only [if_neg hstay]
        split at h <;> rename_i hup
        · simp only [if_pos hup]
          split at h <;> rename_i houtside
          · cases h
          · simpa only [if_neg houtside] using ih h
        · simp only [if_neg hup]
          split at h <;> rename_i hlong
          · cases h
          · simpa only [if_neg hlong] using ih h

theorem resolve_put (hfree : files.node? parts ≠ some .folder) (node : Node) {found : List String}
    (h : files.resolve path = .ok found) : (files.put parts node).resolve path = .ok found := by
  rw [resolve, follow] at h ⊢
  split at h <;> rename_i hnul
  · cases h
  split at h <;> rename_i hempty
  · cases h
  split at h <;> rename_i hlong
  · cases h
  split at h <;> rename_i houtside
  · cases h
  simpa only [if_neg hnul, if_neg hempty, if_neg hlong, if_neg houtside] using walk_put hfree node h

theorem resolve_of_place (h : files.place path = .ok parts) :
    files.resolve path = .ok parts ∧ files.node? parts ≠ some .folder := by
  unfold place at h
  split at h
  · cases hfolder : files.follow path (folderParts path) with
    | error fault => simp [hfolder, bind, Except.bind] at h
    | ok found =>
      simp only [hfolder, bind, Except.bind] at h
      split at h <;> cases h
  · cases hresolve : files.resolve path with
    | error fault => simp [hresolve, bind, Except.bind] at h
    | ok found =>
      simp only [hresolve, bind, Except.bind] at h
      split at h <;> cases h
      exact ⟨rfl, ‹_›⟩

theorem read_put_self (hresolve : files.resolve path = .ok parts)
    (hfree : files.node? parts ≠ some .folder) (bytes : ByteArray) :
    (files.put parts (.file bytes)).read path = .ok bytes := by
  have hne : parts ≠ [] := by
    rintro rfl
    exact hfree rfl
  simp [read, resolve_put hfree _ hresolve, node?_put_self hne, bind, Except.bind, pure,
    Except.pure]

theorem fromUTF8?_toUTF8 (text : String) : String.fromUTF8? text.toUTF8 = some text := by
  unfold String.fromUTF8?
  rw [String.toUTF8_eq_toByteArray, dif_pos text.isValidUTF8]
  rfl

theorem readText_of_writeText (h : files.writeText path text = .ok changed) :
    changed.readText path = .ok text := by
  unfold writeText write at h
  cases hplace : files.place path with
  | error fault => simp [hplace, bind, Except.bind] at h
  | ok parts =>
    rw [hplace] at h
    cases h
    obtain ⟨hresolve, hfree⟩ := resolve_of_place hplace
    simp only [readText, read_put_self hresolve hfree, bind, Except.bind, fromUTF8?_toUTF8]
    rfl

theorem place_of_writeText_error {fault : Fault} (h : files.writeText path text = .error fault) :
    files.place path = .error fault := by
  unfold writeText write at h
  cases hplace : files.place path with
  | error other =>
    rw [hplace] at h
    cases h
    rfl
  | ok parts =>
    rw [hplace] at h
    cases h

end Files

theorem Sandbox.writeText_run (path text : String) (sandbox : Sandbox) :
    (FileSystem.writeText path text : StateM Sandbox (Except Fault Unit)).run sandbox =
      match sandbox.files.writeText (sandbox.pathInTree path) text with
      | .ok files => (.ok (), { sandbox with files })
      | .error fault => (.error fault, sandbox) := rfl

end PadScript
