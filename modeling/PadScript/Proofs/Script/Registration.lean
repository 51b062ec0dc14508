import Mathlib.Data.List.Forall2
import PadScript.SoftReset

/-!
# What registering keywords comes to

Calls that register a reader may come in any order and number. Whether one succeeds is
decided by its name and by the names that were registered before, and the first thing
that is wrong is reported. A call that fails changes nothing, so the table is always the
built-in commands and the registered ones, each with its reader, in the order of the
bytes of their keywords (`table_after`). Reserved keywords are compared without regard to
case and looked up with regard to it; no spelling of one is ever registered, so that does
not matter to the table.
-/

namespace PadScript

-- ---------------------------------------------------------------------------
-- The order of bytes
-- ---------------------------------------------------------------------------

namespace Text

def bytesOf (text : String) : List UInt8 := text.toUTF8.data.toList

theorem bytesOf_eq (text : String) : bytesOf text = text.toList.flatMap String.utf8EncodeChar := by
  rw [bytesOf, String.toUTF8_eq_toByteArray, ← String.utf8Encode_toList, List.utf8Encode,
    List.toList_data_toByteArray]

theorem ofNat_cons_lt {a b : Nat} (ha : a < 256) (hb : b < 256) {s t : List UInt8} :
    UInt8.ofNat a :: s < UInt8.ofNat b :: t ↔ a < b ∨ a = b ∧ s < t := by
  rw [List.cons_lt_cons_iff, UInt8.ofNat_lt_iff_lt ha hb, ← UInt8.toNat_inj,
    UInt8.toNat_ofNat_of_lt' ha, UInt8.toNat_ofNat_of_lt' hb]

theorem utf8EncodeChar_lt {c d : Char} (h : c < d) (s t : List UInt8) :
    String.utf8EncodeChar c ++ s < String.utf8EncodeChar d ++ t := by
  have hlt : c.val.toNat < d.val.toNat := h
  have hmax : d.val.toNat < 0x110000 := by
    rcases d.valid with hd | hd
    · exact Nat.lt_trans hd (by decide)
    · exact hd.2
  have hdiv (n : Nat) : n / 4096 = n / 64 / 64 ∧ n / 262144 = n / 64 / 64 / 64 := by omega
  simp only [String.utf8EncodeChar, hdiv]
  -- one case for each number of bytes of either character
  repeat' split
  all_goals simp (disch := omega) only [List.cons_append, List.nil_append, ofNat_cons_lt]
  all_goals omega

theorem utf8EncodeChar_ne_nil (c : Char) : String.utf8EncodeChar c ≠ [] := by
  simp only [String.utf8EncodeChar]
  repeat' split
  all_goals exact List.cons_ne_nil _ _

theorem flatMap_utf8EncodeChar_lt {s t : List Char} (h : s < t) :
    s.flatMap String.utf8EncodeChar < t.flatMap String.utf8EncodeChar := by
  induction s generalizing t with
  | nil =>
    cases t with
    | nil => exact absurd h (List.lt_irrefl [])
    | cons d t =>
      obtain ⟨byte, bytes, he⟩ := List.exists_cons_of_ne_nil (utf8EncodeChar_ne_nil d)
      rw [List.flatMap_cons, he]
      exact List.nil_lt_cons _ _
  | cons c s ih =>
    cases t with
    | nil => cases h
    | cons d t =>
      rw [List.flatMap_cons, List.flatMap_cons]
      rcases List.cons_lt_cons_iff.1 h with hlt | ⟨rfl, hrest⟩
      · exact utf8EncodeChar_lt hlt _ _
      · exact List.append_left_lt (ih hrest)

theorem bytesOf_lt {text other : String} (h : text < other) : bytesOf text < bytesOf other := by
  rw [bytesOf_eq, bytesOf_eq]
  exact flatMap_utf8EncodeChar_lt (String.lt_iff.1 h)

end Text

-- ---------------------------------------------------------------------------
-- Names
-- ---------------------------------------------------------------------------

/-- One letter of ASCII, maybe in the other case, or one character. -/
def SameLetter (c d : Char) : Prop :=
  c = d ∨ c.isUpper ∧ d.toNat = c.toNat + 32 ∨ d.isUpper ∧ c.toNat = d.toNat + 32

structure UsableName (name : String) : Prop where
  nonempty : name ≠ ""
  noComment : name.toList.head? ≠ some '#'
  solid : ∀ c ∈ name.toList, Text.isBlank c = false

/-- A name that is one of the reserved keywords, but for the case of its letters. -/
def LooksReserved (name : String) : Prop :=
  ∃ keyword ∈ reservedKeywords, List.Forall₂ SameLetter name.toList keyword.toList

theorem isUsableName_iff {name : String} : isUsableName name = true ↔ UsableName name := by
  unfold isUsableName
  split
  · rename_i hnil
    refine iff_of_false Bool.false_ne_true fun h => h.nonempty ?_
    exact String.toList_eq_nil_iff.1 hnil
  · rename_i first rest hcons
    have hne : name ≠ "" := by
      rintro rfl
      cases hcons
    simp only [Bool.and_eq_true, bne_iff_ne, Bool.not_eq_true', List.any_eq_false]
    constructor
    · rintro ⟨hhash, hsolid⟩
      exact ⟨hne, by simpa [hcons] using hhash, by simpa [hcons] using hsolid⟩
    · rintro ⟨-, hhash, hsolid⟩
      exact ⟨by simpa [hcons] using hhash, by simpa [hcons] using hsolid⟩

theorem isUpper_iff {c : Char} : c.isUpper = true ↔ 65 ≤ c.toNat ∧ c.toNat ≤ 90 := by
  change decide (65 ≤ c.val ∧ c.val ≤ 90) = true ↔ _
  rw [decide_eq_true_eq]
  exact and_congr UInt32.le_iff_toNat_le UInt32.le_iff_toNat_le

theorem toNat_toLower (c : Char) :
    c.toLower.toNat = if c.isUpper then c.toNat + 32 else c.toNat := by
  split
  · rename_i hupper
    have hmax : c.toNat ≤ 90 := (isUpper_iff.1 hupper).2
    have hlower : c.toLower.val = c.val + 32 :=
      congrArg Char.val (dif_pos (of_decide_eq_true hupper))
    change c.toLower.val.toNat = c.toNat + 32
    rw [hlower, UInt32.toNat_add]
    refine Nat.mod_eq_of_lt ?_
    change c.toNat + 32 < _
    omega
  · rename_i hupper
    exact congrArg Char.toNat (dif_neg fun h => hupper (decide_eq_true h))

theorem toLower_eq_iff {c d : Char} : c.toLower = d.toLower ↔ SameLetter c d := by
  rw [SameLetter, ← Char.toNat_inj, toNat_toLower, toNat_toLower, ← Char.toNat_inj]
  simp only [isUpper_iff]
  split <;> split <;> omega

theorem eqIgnoringCase_iff {name other : String} :
    eqIgnoringCase name other = true ↔ List.Forall₂ SameLetter name.toList other.toList := by
  rw [eqIgnoringCase, beq_iff_eq, ← List.forall₂_eq_eq_eq, List.forall₂_map_left_iff,
    List.forall₂_map_right_iff]
  simp only [toLower_eq_iff]

theorem looksReserved_iff {name : String} :
    reservedKeywords.any (eqIgnoringCase name) = true ↔ LooksReserved name := by
  simp only [List.any_eq_true, eqIgnoringCase_iff, LooksReserved]

theorem looksReserved_of_mem {name : String} (h : name ∈ reservedKeywords) : LooksReserved name :=
  looksReserved_iff.1 (List.any_eq_true.2 ⟨name, h, by simp [eqIgnoringCase]⟩)

-- ---------------------------------------------------------------------------
-- One call
-- ---------------------------------------------------------------------------

/-- What is wrong with a name first, when these names are taken. -/
inductive Refused (taken : List String) (name : String) : RegistryError → Prop
  | invalidName (h : ¬ UsableName name) : Refused taken name (.invalidName name)
  | reserved (h : UsableName name) (hlooks : LooksReserved name) :
      Refused taken name (.reserved name)
  | duplicate (h : UsableName name) (hlooks : ¬ LooksReserved name) (htaken : name ∈ taken) :
      Refused taken name (.duplicate name)

namespace Registry

variable {registry next : Registry} {name : String} {reader : Reader}

theorem contains_iff : registry.contains name = true ↔ name ∈ registry.names := by
  rw [contains, get?, names]
  induction registry.entries with
  | nil => simp
  | cons entry rest ih =>
    rw [List.lookup_cons, List.map_cons, List.mem_cons, ← ih]
    split
    · rename_i heq
      simp [beq_iff_eq.1 heq]
    · rename_i hne
      simp [beq_eq_false_iff_ne.1 hne]

theorem register_ok_iff : registry.register name reader = .ok next ↔
    UsableName name ∧ ¬ LooksReserved name ∧ name ∉ registry.names ∧
      next = ⟨insertEntry name reader registry.entries⟩ := by
  rw [← isUsableName_iff, ← looksReserved_iff, ← contains_iff, register]
  cases isUsableName name
  · simp
  · cases reservedKeywords.any (eqIgnoringCase name)
    · cases registry.contains name <;> simp [eq_comm]
    · simp

theorem register_error_iff {error : RegistryError} :
    registry.register name reader = .error error ↔ Refused registry.names name error := by
  constructor
  · intro h
    unfold register at h
    split at h
    · rename_i hunusable
      cases h
      exact .invalidName (by rw [← isUsableName_iff]; simpa using hunusable)
    · rename_i husable
      have husable : UsableName name := isUsableName_iff.1 (by simpa using husable)
      split at h
      · rename_i hlooks
        cases h
        exact .reserved husable (looksReserved_iff.1 hlooks)
      · rename_i hlooks
        split at h
        · rename_i htaken
          cases h
          exact .duplicate husable (mt looksReserved_iff.2 hlooks) (contains_iff.1 htaken)
        · cases h
  · intro h
    cases h with
    | invalidName h =>
      simp [register, isUsableName_iff, h]
    | reserved h hlooks =>
      simp [register, isUsableName_iff, h, looksReserved_iff.2 hlooks]
    | duplicate h hlooks htaken =>
      simp [register, isUsableName_iff, h, mt looksReserved_iff.1 hlooks, contains_iff.2 htaken]

theorem insertEntry_perm (name : String) (reader : Reader) (entries : List (String × Reader)) :
    (insertEntry name reader entries).Perm ((name, reader) :: entries) := by
  induction entries with
  | nil => exact .refl _
  | cons entry rest ih =>
    rw [insertEntry]
    split
    · exact .refl _
    · exact (ih.cons entry).trans (.swap _ _ _)

theorem insertEntry_ordered {entries : List (String × Reader)}
    (h : entries.Pairwise fun entry later => entry.1 < later.1)
    (hfresh : ∀ entry ∈ entries, entry.1 ≠ name) :
    (insertEntry name reader entries).Pairwise fun entry later => entry.1 < later.1 := by
  induction entries with
  | nil => exact List.pairwise_singleton _ _
  | cons entry rest ih =>
    obtain ⟨hfirst, hrest⟩ := List.pairwise_cons.1 h
    obtain ⟨hne, hfresh⟩ := List.forall_mem_cons.1 hfresh
    rw [insertEntry]
    split
    · rename_i hlt
      refine List.pairwise_cons.2 ⟨List.forall_mem_cons.2 ⟨hlt, fun later hlater => ?_⟩, h⟩
      exact String.lt_trans hlt (hfirst later hlater)
    · rename_i hnlt
      refine List.pairwise_cons.2 ⟨fun later hlater => ?_, ih hrest hfresh⟩
      have hlater := (insertEntry_perm name reader rest).mem_iff.1 hlater
      rcases List.mem_cons.1 hlater with rfl | hlater
      · exact Std.lt_of_le_of_ne (String.not_lt.1 hnlt) hne
      · exact hfirst later hlater

-- ---------------------------------------------------------------------------
-- Calls one after the other
-- ---------------------------------------------------------------------------

end Registry

structure Registration where
  name : String
  reader : Reader

def Registration.entry (call : Registration) : String × Reader := (call.name, call.reader)

namespace Registry

def call (registry : Registry) (made : Registration) : Registry :=
  match registry.register made.name made.reader with
  | .ok next => next
  | .error _ => registry

def after (registry : Registry) (calls : List Registration) : Registry := calls.foldl call registry

def accepted (registry : Registry) : List Registration → List Registration
  | [] => []
  | made :: rest =>
    match registry.register made.name made.reader with
    | .ok next => made :: next.accepted rest
    | .error _ => registry.accepted rest

theorem after_concat (registry : Registry) (calls : List Registration) (made : Registration) :
    registry.after (calls ++ [made]) = (registry.after calls).call made := by
  rw [after, List.foldl_append]
  rfl

theorem accepted_append (registry : Registry) (calls more : List Registration) :
    registry.accepted (calls ++ more) =
      registry.accepted calls ++ (registry.after calls).accepted more := by
  induction calls generalizing registry with
  | nil => rfl
  | cons made rest ih =>
    rw [List.cons_append, accepted, accepted, after, List.foldl_cons, call, ← after]
    cases registry.register made.name made.reader with
    | error error => exact ih registry
    | ok next => exact congrArg (made :: ·) (ih next)

structure Holds (registry : Registry) (made : List Registration) : Prop where
  ordered : registry.entries.Pairwise fun entry later => entry.1 < later.1
  entries : registry.entries.Perm (builtin.entries ++ made.map Registration.entry)
  apart : ∀ call ∈ made, ¬ LooksReserved call.name

theorem holds_builtin : builtin.Holds [] where
  ordered := by decide +kernel
  entries := .refl _
  apart := by simp

variable {registry next : Registry} {made : List Registration}

theorem Holds.register (h : registry.Holds made) {call : Registration}
    (hnext : registry.register call.name call.reader = .ok next) : next.Holds (made ++ [call]) := by
  obtain ⟨-, hlooks, hfresh, rfl⟩ := register_ok_iff.1 hnext
  refine ⟨?_, ?_, ?_⟩
  · refine insertEntry_ordered h.ordered fun entry hentry he => hfresh ?_
    exact List.mem_map.2 ⟨entry, hentry, he⟩
  · rw [List.map_append, ← List.append_assoc]
    refine (insertEntry_perm _ _ _).trans ((h.entries.cons _).trans ?_)
    exact (List.perm_append_singleton _ _).symm
  · exact List.forall_mem_append.2 ⟨h.apart, by simpa using hlooks⟩

theorem Holds.after (h : registry.Holds made) (calls : List Registration) :
    (registry.after calls).Holds (made ++ registry.accepted calls) := by
  induction calls generalizing registry made with
  | nil => simpa [Registry.after, accepted] using h
  | cons call rest ih =>
    rw [accepted, Registry.after, List.foldl_cons, ← Registry.after, Registry.call]
    cases hnext : registry.register call.name call.reader with
    | error error => exact ih h
    | ok next =>
      have hheld := ih (h.register hnext)
      rwa [List.append_assoc] at hheld

theorem Holds.names (h : registry.Holds made) :
    registry.names.Perm (reservedKeywords ++ made.map (·.name)) := by
  have hnames := h.entries.map Prod.fst
  rw [List.map_append, List.map_map] at hnames
  refine hnames.trans (List.Perm.append_right _ ?_)
  decide

theorem Holds.nodup (h : registry.Holds made) : registry.names.Nodup := by
  refine List.Pairwise.map _ (fun entry later hlt he => ?_) h.ordered
  exact String.lt_irrefl _ (he ▸ hlt)

theorem get?_of_mem {entries : List (String × Reader)} (hnodup : (entries.map Prod.fst).Nodup)
    {entry : String × Reader} (h : entry ∈ entries) : get? ⟨entries⟩ entry.1 = some entry.2 := by
  induction entries with
  | nil => cases h
  | cons first rest ih =>
    obtain ⟨hfirst, hrest⟩ := List.nodup_cons.1 hnodup
    rw [get?, List.lookup_cons]
    rcases List.mem_cons.1 h with rfl | h
    · simp
    · have hne : (entry.1 == first.1) = false :=
        beq_eq_false_iff_ne.2 fun he => hfirst (he ▸ List.mem_map_of_mem h)
      rw [hne]
      exact ih hrest h

theorem Holds.get? (h : registry.Holds made) {entry : String × Reader}
    (hentry : entry ∈ builtin.entries ++ made.map Registration.entry) :
    registry.get? entry.1 = some entry.2 :=
  get?_of_mem h.nodup (h.entries.mem_iff.2 hentry)

theorem Holds.extensionNames (h : registry.Holds made) :
    registry.extensionNames.Perm (made.map (·.name)) := by
  have hreserved : reservedKeywords.filter (· ∉ reservedKeywords) = [] := by decide
  have hmade : (made.map (·.name)).filter (· ∉ reservedKeywords) = made.map (·.name) := by
    refine List.filter_eq_self.2 fun name hname => ?_
    obtain ⟨call, hcall, rfl⟩ := List.mem_map.1 hname
    simpa using mt looksReserved_of_mem (h.apart call hcall)
  have hperm := h.names.filter (· ∉ reservedKeywords)
  rwa [List.filter_append, hreserved, hmade, List.nil_append] at hperm

theorem Holds.mem_names (h : registry.Holds made) {name : String} (hlooks : ¬ LooksReserved name) :
    name ∈ registry.names ↔ name ∈ made.map (·.name) := by
  rw [h.names.mem_iff, List.mem_append, or_iff_right (mt looksReserved_of_mem hlooks)]

end Registry

/-- After any calls, the next one succeeds exactly if its name is usable, looks like no reserved
keyword and is not registered yet; otherwise it reports the first of these that fails, and
changes nothing. The table is the built-in commands, which nobody replaces, and the readers
that were registered, each under a keyword of its own, in the order of bytes. -/
theorem table_after (calls : List Registration) :
    let registry := Registry.builtin.after calls
    let made := Registry.builtin.accepted calls
    (∀ call : Registration,
      ((∃ next, registry.register call.name call.reader = .ok next) ↔ UsableName call.name ∧
        ¬ LooksReserved call.name ∧ call.name ∉ made.map (·.name)) ∧
      (∀ next, registry.register call.name call.reader = .ok next →
        Registry.builtin.after (calls ++ [call]) = next ∧
        Registry.builtin.accepted (calls ++ [call]) = made ++ [call]) ∧
      ∀ error, registry.register call.name call.reader = .error error →
        Refused (made.map (·.name)) call.name error ∧
        Registry.builtin.after (calls ++ [call]) = registry ∧
        Registry.builtin.accepted (calls ++ [call]) = made) ∧
    registry.get? "Press" = some Press.read ∧ registry.get? "Wait" = some Wait.read ∧
    registry.get? "Start" = some Start.read ∧ registry.get? "Hit" = some Hit.read ∧
    registry.names.Pairwise (fun name later => Text.bytesOf name < Text.bytesOf later) ∧
    registry.names.Perm (reservedKeywords ++ made.map (·.name)) ∧
    (made.map (·.name)).Nodup ∧ (∀ call ∈ made, registry.get? call.name = some call.reader) ∧
    registry.extensionNames.Perm (made.map (·.name)) := by
  intro registry made
  have hholds : registry.Holds made := by simpa using Registry.holds_builtin.after calls
  have hbuiltin {keyword : String} {reader : Reader}
      (h : (keyword, reader) ∈ Registry.builtin.entries) : registry.get? keyword = some reader :=
    hholds.get? (List.mem_append_left _ h)
  have hnames := hholds.names.nodup_iff.1 hholds.nodup
  refine ⟨fun call => ⟨?_, fun next hnext => ?_, fun error herror => ⟨?_, ?_⟩⟩,
    hbuiltin (by simp [Registry.builtin]), hbuiltin (by simp [Registry.builtin]),
    hbuiltin (by simp [Registry.builtin]), hbuiltin (by simp [Registry.builtin]), ?_,
    hholds.names, (List.nodup_append.1 hnames).2.1, fun call hcall => ?_, hholds.extensionNames⟩
  · simp only [Registry.register_ok_iff, exists_and_left, exists_eq, and_true]
    refine and_congr_right fun _ => and_congr_right fun hlooks => ?_
    rw [hholds.mem_names hlooks]
  · rw [Registry.after_concat, Registry.accepted_append, Registry.call, hnext, Registry.accepted,
      hnext]
    exact ⟨rfl, rfl⟩
  · cases Registry.register_error_iff.1 herror with
    | invalidName h => exact .invalidName h
    | reserved h hlooks => exact .reserved h hlooks
    | duplicate h hlooks htaken => exact .duplicate h hlooks ((hholds.mem_names hlooks).1 htaken)
  · rw [Registry.after_concat, Registry.accepted_append, Registry.call, herror, Registry.accepted,
      herror, Registry.accepted, List.append_nil]
    exact ⟨rfl, rfl⟩
  · exact hholds.ordered.map _ fun _ _ => Text.bytesOf_lt
  · exact hholds.get? (List.mem_append_right _ (List.mem_map_of_mem hcall))

/-- Of these calls the second, third and fourth fail; so does another one with a name that is
registered, and the reader that was registered with it stays. -/
theorem table_after_refused :
    let calls : List Registration := [⟨"Reset", SoftReset.read⟩, ⟨"two words", Wait.read⟩,
      ⟨"PRESS", Wait.read⟩, ⟨"Reset", Wait.read⟩, ⟨"äther", Wait.read⟩]
    let registry := Registry.builtin.after calls
    Registry.builtin.accepted calls = [⟨"Reset", SoftReset.read⟩, ⟨"äther", Wait.read⟩] ∧
    registry.names = ["Hit", "Press", "Reset", "Start", "Wait", "äther"] ∧
    registry.register "Reset" Start.read = .error (.duplicate "Reset") ∧
    Registry.builtin.after (calls ++ [⟨"Reset", Start.read⟩]) = registry ∧
    registry.get? "Reset" = some SoftReset.read := by
  intro calls registry
  have haccepted : Registry.builtin.accepted calls =
      [⟨"Reset", SoftReset.read⟩, ⟨"äther", Wait.read⟩] := by rfl
  have hagain : registry.register "Reset" Start.read = .error (.duplicate "Reset") := by rfl
  obtain ⟨hcall, -, -, -, -, -, -, -, hreaders, -⟩ := table_after calls
  obtain ⟨-, hsame, -⟩ := (hcall ⟨"Reset", Start.read⟩).2.2 _ hagain
  refine ⟨haccepted, by rfl, hagain, hsame, hreaders ⟨"Reset", SoftReset.read⟩ ?_⟩
  rw [haccepted]
  exact List.mem_cons_self

end PadScript
