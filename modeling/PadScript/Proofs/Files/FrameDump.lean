import PadScript.Output
import PadScript.Proofs.Files.Written
import PadScript.Proofs.Script.Chords
import PadScript.Proofs.Script.Values
import PadScript.Sandbox

/-!
# What a dump tells

A dump has one line for each write, and a line of pairs of digits stands for one row of bytes and
for no other (`bytesOfHex?_eq_some_iff`). So the writes can be read off the file that closing a
recorder leaves, and its button states are those of the writes that are frames
(`dump_reads_back`).
-/

namespace PadScript

-- ---------------------------------------------------------------------------
-- Lines of pairs
-- ---------------------------------------------------------------------------

namespace Text

def byteOfHex? : List Char → Option UInt8
  | [high, low] => do
    let high ← hexValue? high
    let low ← hexValue? low
    return UInt8.ofNat (16 * high + low)
  | _ => none

/-- The bytes of pairs set apart by single spaces. An empty line is no byte at all. -/
def bytesOfHex? (line : String) : Option (List UInt8) :=
  if line = "" then some [] else (line.toList.splitOn ' ').mapM byteOfHex?

variable {c : Char} {n : Nat} {byte : UInt8} {pair : List Char} {bytes : List UInt8}

theorem hexDigit_of_hexValue? (h : hexValue? c = some n) : n < 16 ∧ hexDigit n = c := by
  unfold hexValue? at h
  split at h
  · rename_i hdigit
    obtain ⟨hlow, hhigh⟩ := hdigit
    have hlow : 48 ≤ c.toNat := Char.le_def.1 hlow
    have hhigh : c.toNat ≤ 57 := Char.le_def.1 hhigh
    cases h
    refine ⟨by omega, ?_⟩
    rw [hexDigit, if_pos (by omega), Nat.add_sub_cancel' hlow, Char.ofNat_toNat]
  · split at h
    · rename_i hletter
      obtain ⟨hlow, hhigh⟩ := hletter
      have hlow : 65 ≤ c.toNat := Char.le_def.1 hlow
      have hhigh : c.toNat ≤ 70 := Char.le_def.1 hhigh
      cases h
      refine ⟨by omega, ?_⟩
      rw [hexDigit, if_neg (by omega), Nat.add_sub_cancel' (by omega), Char.ofNat_toNat]
    · cases h

theorem hexByte_eq (byte : UInt8) :
    hexByte byte = [hexDigit (byte.toNat / 16), hexDigit (byte.toNat % 16)] := by
  have hlt := byte.toNat_lt
  have hhigh : byte.toNat / 16 % 16 = byte.toNat / 16 := by omega
  simp [hexByte, hex, hhigh]

theorem byteOfHex?_eq_some_iff : byteOfHex? pair = some byte ↔ pair = hexByte byte := by
  rw [hexByte_eq]
  constructor
  · intro h
    match pair, h with
    | [high, low], h =>
      simp only [byteOfHex?, Option.bind_eq_bind, Option.bind_eq_some_iff] at h
      obtain ⟨upper, hupper, lower, hlower, hbyte⟩ := h
      obtain ⟨hu, rfl⟩ := hexDigit_of_hexValue? hupper
      obtain ⟨hl, rfl⟩ := hexDigit_of_hexValue? hlower
      obtain rfl := Option.some.inj hbyte
      have hvalue : (UInt8.ofNat (16 * upper + lower)).toNat = 16 * upper + lower :=
        UInt8.toNat_ofNat_of_lt' (by simp only [UInt8.size]; omega)
      have hhigh : (16 * upper + lower) / 16 = upper := by omega
      have hlow : (16 * upper + lower) % 16 = lower := by omega
      rw [hvalue, hhigh, hlow]
  · rintro rfl
    have hlt := byte.toNat_lt
    rw [byteOfHex?, hexValue?_hexDigit (by omega), hexValue?_hexDigit (Nat.mod_lt _ (by decide)),
      Option.bind_eq_bind, Option.bind_some, Option.bind_some, Nat.div_add_mod,
      UInt8.ofNat_toNat]
    rfl

theorem notMem_hexByte (hc : hexValue? c = none) (byte : UInt8) : c ∉ hexByte byte := by
  have hlt := byte.toNat_lt
  rw [hexByte_eq]
  intro h
  rcases List.mem_pair.1 h with rfl | rfl
  · rw [hexValue?_hexDigit (by omega)] at hc
    cases hc
  · rw [hexValue?_hexDigit (Nat.mod_lt _ (by decide))] at hc
    cases hc

end Text

open Text

theorem toList_hexText (bytes : List UInt8) :
    (hexText bytes).toList = [' '].intercalate (bytes.map hexByte) := by
  simp [hexText, String.toList_intercalate, Function.comp_def]

theorem hexText_eq_empty_iff {bytes : List UInt8} : hexText bytes = "" ↔ bytes = [] := by
  rw [← String.toList_inj, toList_hexText]
  cases bytes with
  | nil => simp
  | cons byte rest => cases rest <;> simp [hexByte_eq, List.intercalate_cons_cons]

theorem mapM_byteOfHex? {pairs : List (List Char)} {bytes : List UInt8} :
    pairs.mapM byteOfHex? = some bytes ↔ pairs = bytes.map hexByte := by
  simp only [mapM_eq_some, byteOfHex?_eq_some_iff, ← List.forall₂_eq_eq_eq,
    List.forall₂_map_right_iff]

theorem bytesOfHex?_eq_some_iff {line : String} {bytes : List UInt8} :
    bytesOfHex? line = some bytes ↔ line = hexText bytes := by
  by_cases hempty : line = ""
  · subst hempty
    rw [bytesOfHex?, if_pos rfl, eq_comm (b := hexText bytes), hexText_eq_empty_iff,
      Option.some.injEq, eq_comm]
  · rw [bytesOfHex?, if_neg hempty, mapM_byteOfHex?, ← String.toList_inj, toList_hexText]
    constructor
    · intro h
      rw [← h, List.intercalate_splitOn]
    · intro h
      rw [h, List.splitOn_intercalate]
      · intro pair hpair
        obtain ⟨byte, -, rfl⟩ := List.mem_map.1 hpair
        exact notMem_hexByte (by decide) byte
      · intro hnone
        rw [hnone, List.intercalate_nil, String.toList_eq_nil_iff] at h
        exact hempty h

-- ---------------------------------------------------------------------------
-- Lines of a dump
-- ---------------------------------------------------------------------------

namespace Text

theorem lines_append_feed {row : List Char} (hfeed : '\n' ∉ row) (hreturn : '\r' ∉ row)
    (rest : List Char) : lines (row ++ '\n' :: rest) = row :: lines rest := by
  have hrow : row.splitOnP (· == '\n') = [row] :=
    List.splitOnP_eq_singleton fun c hc => beq_eq_false_iff_ne.2 fun he => hfeed (he ▸ hc)
  have hkept : dropReturn row = row := if_neg fun hlast => hreturn (List.mem_of_getLast? hlast)
  have hne : rest.splitOnP (· == '\n') ≠ [] := List.splitOnP_ne_nil _ rest
  rw [lines, lines, List.splitOnP_append_cons _ _ (by rfl), hrow, List.singleton_append]
  simp only [List.getLast?_cons_of_ne_nil hne, List.dropLast_cons_of_ne_nil hne, List.map_cons,
    hkept, List.cons_append]

end Text

theorem notMem_hexText {c : Char} (hc : hexValue? c = none) (hspace : c ≠ ' ')
    (bytes : List UInt8) : c ∉ (hexText bytes).toList := by
  rw [toList_hexText]
  intro h
  rcases mem_intercalate h with hspaced | ⟨pair, hpair, hc'⟩
  · exact hspace hspaced
  · obtain ⟨byte, -, rfl⟩ := List.mem_map.1 hpair
    exact notMem_hexByte hc byte hc'

namespace Recorder

variable {recorder : Recorder}

theorem linesOf_dump (recorder : Recorder) :
    linesOf recorder.dump = recorder.writes.toList.map hexText := by
  rw [linesOf, dump, String.toList_join]
  induction recorder.writes.toList with
  | nil => rfl
  | cons bytes rest ih =>
    have hfeed : '\n' ∉ (hexText bytes).toList := notMem_hexText (by decide) (by decide) bytes
    have hreturn : '\r' ∉ (hexText bytes).toList := notMem_hexText (by decide) (by decide) bytes
    have htext (more : List Char) : (hexText bytes ++ "\n").toList ++ more =
        (hexText bytes).toList ++ '\n' :: more := by simp
    rw [List.map_cons, List.flatMap_cons, htext, lines_append_feed hfeed hreturn, List.map_cons,
      ih, String.ofList_toList, List.map_cons]

theorem read_dump (recorder : Recorder) :
    (linesOf recorder.dump).map bytesOfHex? = recorder.writes.toList.map some := by
  rw [linesOf_dump, List.map_map]
  exact List.map_congr_left fun bytes _ => bytesOfHex?_eq_some_iff.2 rfl

/-- A press of Z, a write of nothing, and two bytes that are no frame. -/
example : (Recorder.mk #[Buttons.z.frame, [], [1, 2]]).dump = "80 80 81\n\n01 02\n" := by
  decide +kernel

theorem writes_of_dump_eq {other : Recorder} (h : other.dump = recorder.dump) :
    other.writes = recorder.writes := by
  have hread := read_dump other
  rw [h, read_dump] at hread
  exact Array.toList_inj.1 (List.map_injective_iff.2 (fun _ _ => Option.some.inj) hread.symm)

end Recorder

-- ---------------------------------------------------------------------------
-- States
-- ---------------------------------------------------------------------------

/-- A write that selects buttons: three bytes, of which the first is the head of a frame. -/
def IsFrame (bytes : List UInt8) : Prop := bytes.length = 3 ∧ bytes.head? = some 0x80

instance : DecidablePred IsFrame := fun _ => inferInstanceAs (Decidable (_ ∧ _))

/-- The buttons whose word the second and the third byte are, with the base bits. -/
def Selects (bytes : List UInt8) (buttons : Buttons) : Prop :=
  ∃ low high, bytes = [0x80, low, high] ∧
    buttons.word.toNat = (256 * high.toNat + low.toNat) ||| 0x8080

namespace Buttons

theorem selects_of_ofFrame? {bytes : List UInt8} {buttons : Buttons}
    (h : ofFrame? bytes = some buttons) : IsFrame bytes ∧ Selects bytes buttons := by
  unfold ofFrame? at h
  split at h
  · rename_i head low high
    split at h
    · rename_i hhead
      subst hhead
      cases h
      refine ⟨⟨rfl, rfl⟩, low, high, rfl, ?_⟩
      rw [ofBits, UInt16.toNat_or, toNat_ofBytes]
      rfl
    · cases h
  · cases h

theorem not_isFrame_of_ofFrame? {bytes : List UInt8} (h : ofFrame? bytes = none) :
    ¬ IsFrame bytes := by
  rintro ⟨hlength, hhead⟩
  obtain ⟨head, low, high, rfl⟩ := List.length_eq_three.1 hlength
  obtain rfl := Option.some.inj hhead
  cases h

end Buttons

namespace Recorder

theorem states_select (recorder : Recorder) :
    List.Forall₂ Selects (recorder.writes.toList.filter (IsFrame ·)) recorder.states := by
  rw [states]
  induction recorder.writes.toList with
  | nil => exact .nil
  | cons bytes rest ih =>
    cases hframe : Buttons.ofFrame? bytes with
    | none =>
      have hno := Buttons.not_isFrame_of_ofFrame? hframe
      simpa [List.filter_cons, hframe, hno] using ih
    | some buttons =>
      obtain ⟨hyes, hselects⟩ := Buttons.selects_of_ofFrame? hframe
      simpa [List.filter_cons, hframe, hyes] using ⟨hselects, ih⟩

end Recorder

-- ---------------------------------------------------------------------------
-- Writing and closing
-- ---------------------------------------------------------------------------

namespace Output

section WriteAll

variable {m : Type → Type} [Monad m] [FileSystem m]

def writeAll (output : Output (FileSystem.Device m)) :
    List (List UInt8) → m (Except Fault (Output (FileSystem.Device m)))
  | [] => return .ok output
  | bytes :: rest => do
    match (← output.write bytes).1 with
    | .error fault => return .error fault
    | .ok output => output.writeAll rest

theorem writeAll_recorder [LawfulMonad m] (recorder : Recorder) (folder file : String)
    (writes : List (List UInt8)) :
    writeAll (m := m) (.recorder recorder folder file) writes =
      pure (.ok (.recorder ⟨recorder.writes ++ writes.toArray⟩ folder file)) := by
  induction writes generalizing recorder with
  | nil => simp [writeAll]
  | cons bytes rest ih => simp [writeAll, write, Recorder.write, ih]

end WriteAll

theorem close_recorder_run (recorder : Recorder) (folder file : String) (sandbox : Sandbox) :
    let ready := ((FileSystem.makeFolders folder : StateM Sandbox (Except Fault Unit)).run
      sandbox).2
    let path := folder ++ "/" ++ file
    (close (.recorder recorder folder file) : StateM Sandbox _).run sandbox =
      match ready.files.writeText (ready.pathInTree path) recorder.dump with
      | .ok files =>
        ((.ok (.recorder recorder folder file), [recorder.dumpEntry path]), { ready with files })
      | .error fault =>
        ((.error ((Report.ofFault fault).within ("writing frame dump " ++ path)), []), ready) := by
  intro ready path
  rw [close, StateT.run_bind]
  change StateT.run (FileSystem.writeText path recorder.dump >>= _) ready = _
  rw [StateT.run_bind, Sandbox.writeText_run]
  cases ready.files.writeText (ready.pathInTree path) recorder.dump <;> rfl

end Output

structure Recorder.Tells (recorder : Recorder) (writes : List (List UInt8)) : Prop where
  lines : (linesOf recorder.dump).map bytesOfHex? = writes.map some
  alone : ∀ other : Recorder, other.dump = recorder.dump → other.writes.toList = writes
  states : List.Forall₂ Selects (writes.filter (IsFrame ·)) recorder.states

/-- A recorder that is given writes, whatever bytes they are, tells just these. Closing it leaves
its dump in the file, unless no file can be put there. -/
theorem dump_reads_back (writes : List (List UInt8)) (folder file : String) :
    ∃ recorder : Recorder, recorder.Tells writes ∧ ∀ sandbox : Sandbox,
      ((Output.recorder {} folder file).writeAll writes : StateM Sandbox _).run sandbox =
        (.ok (.recorder recorder folder file), sandbox) ∧
      let path := folder ++ "/" ++ file
      match (Output.close (.recorder recorder folder file) : StateM Sandbox _).run sandbox with
      | ((.ok closed, _), after) => closed = .recorder recorder folder file ∧
        after.files.readText (after.pathInTree path) = .ok recorder.dump
      | ((.error report, _), after) => ∃ fault,
        after.files.place (after.pathInTree path) = .error fault ∧
        report = (Report.ofFault fault).within ("writing frame dump " ++ path) := by
  let recorder : Recorder := ⟨writes.toArray⟩
  refine ⟨recorder, ⟨recorder.read_dump, fun other hdump => ?_, recorder.states_select⟩,
    fun sandbox => ⟨?_, ?_⟩⟩
  · rw [Recorder.writes_of_dump_eq hdump]
  · have hwrites : ({} : Recorder).writes ++ writes.toArray = writes.toArray := Array.empty_append
    rw [Output.writeAll_recorder, hwrites]
    rfl
  · intro path
    rw [Output.close_recorder_run]
    generalize ((FileSystem.makeFolders folder : StateM Sandbox (Except Fault Unit)).run
      sandbox).2 = ready
    cases hwritten : ready.files.writeText (ready.pathInTree path) recorder.dump with
    | error fault => exact ⟨fault, Files.place_of_writeText_error hwritten, rfl⟩
    | ok files => exact ⟨rfl, Files.readText_of_writeText hwritten⟩

end PadScript
