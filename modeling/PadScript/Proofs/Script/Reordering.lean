import PadScript.Proofs.Script.Footprint

/-!
# The order of options

Options are read from left to right and the first one that is wrong is complained about, so the
complaint depends on their order. What they say does not: no letter comes twice, so each of them
has its value in any order (`OptionsWritten.optionValue?_eq`), and the timer that `-s` names is
claimed after all of them have been read. Put in another order, the options of a `Press` or a
`Hit` are read as the same command with the same draft after it, or fail as well
(`options_any_order`).
-/

namespace PadScript

-- ---------------------------------------------------------------------------
-- What options say
-- ---------------------------------------------------------------------------

variable {letters : List Char} {options others : List String}

theorem OptionsWritten.perm (h : OptionsWritten letters options) (hp : options.Perm others) :
    OptionsWritten letters others where
  each option ho := h.each option (hp.mem_iff.2 ho)
  once := ((hp.filterMap splitOption?).map Prod.fst).nodup_iff.1 h.once

theorem OptionsWritten.optionValue?_eq (h : OptionsWritten letters options)
    (hp : options.Perm others) (letter : Char) :
    optionValue? letter options = optionValue? letter others :=
  lookup_perm (hp.filterMap splitOption?) h.once letter

theorem Press.SpelledBy.perm {press : Press} {groupsText : String}
    (h : press.SpelledBy groupsText options) (hp : options.Perm others) :
    press.SpelledBy groupsText others where
  few := hp.length_eq ▸ h.few
  groups := h.groups
  written := h.written.perm hp
  duration := h.written.optionValue?_eq hp 'd' ▸ h.duration
  interval := h.written.optionValue?_eq hp 'i' ▸ h.interval
  start := h.written.optionValue?_eq hp 's' ▸ h.start

theorem Hit.SpelledBy.perm {hit : Hit} {symbol frameText : String}
    (h : hit.SpelledBy symbol frameText options) (hp : options.Perm others) :
    hit.SpelledBy symbol frameText others where
  few := hp.length_eq ▸ h.few
  button := h.button
  written := h.written.perm hp
  duration := h.written.optionValue?_eq hp 'd' ▸ h.duration
  label := h.written.optionValue?_eq hp 'l' ▸ h.label
  frame := h.written.optionValue?_eq hp 'c' ▸ h.frame
  start := h.written.optionValue?_eq hp 's' ▸ h.start

theorem spells_press_iff {groupsText : String} {command : Command} :
    Spells ("Press" :: groupsText :: options) command ↔
      ∃ press, command = .press press ∧ press.SpelledBy groupsText options := by
  cases command <;> simp [Spells]

theorem spells_hit_iff {symbol frameText : String} {command : Command} :
    Spells ("Hit" :: symbol :: frameText :: options) command ↔
      ∃ hit, command = .hit hit ∧ hit.SpelledBy symbol frameText options := by
  cases command <;> simp [Spells]

theorem spells_press_perm (hp : options.Perm others) (groupsText : String) (command : Command) :
    Spells ("Press" :: groupsText :: options) command ↔
      Spells ("Press" :: groupsText :: others) command := by
  rw [spells_press_iff, spells_press_iff]
  constructor
  · rintro ⟨press, rfl, h⟩
    exact ⟨press, rfl, h.perm hp⟩
  · rintro ⟨press, rfl, h⟩
    exact ⟨press, rfl, h.perm hp.symm⟩

theorem spells_hit_perm (hp : options.Perm others) (symbol frameText : String)
    (command : Command) : Spells ("Hit" :: symbol :: frameText :: options) command ↔
      Spells ("Hit" :: symbol :: frameText :: others) command := by
  rw [spells_hit_iff, spells_hit_iff]
  constructor
  · rintro ⟨hit, rfl, h⟩
    exact ⟨hit, rfl, h.perm hp⟩
  · rintro ⟨hit, rfl, h⟩
    exact ⟨hit, rfl, h.perm hp.symm⟩

-- ---------------------------------------------------------------------------
-- What readings come to
-- ---------------------------------------------------------------------------

namespace Reading

/-- From this draft both readings give the same and leave the same draft, or both fail and leave
the same draft, whatever each complains about. -/
def Alike (x y : Reading α) (draft : Draft) : Prop :=
  match x.run draft with
  | (.ok a, after) => y.run draft = (.ok a, after)
  | (.error _, after) => ∃ error, y.run draft = (.error error, after)

/-- Where failures leave nothing behind, it is enough to compare successes. -/
theorem Atomic.alike {x y : Reading α} {draft : Draft} (hx : Atomic x) (hy : Atomic y)
    (h : ∀ a after, x.run draft = (.ok a, after) ↔ y.run draft = (.ok a, after)) :
    Alike x y draft := by
  unfold Alike
  rcases hrun : x.run draft with ⟨error | a, after⟩
  · obtain rfl := hx draft error after hrun
    rcases hrun' : y.run after with ⟨error' | b, after'⟩
    · obtain rfl := hy after error' after' hrun'
      exact ⟨error', rfl⟩
    · cases hrun.symm.trans ((h b after').2 hrun')
  · exact (h a after).1 hrun

end Reading

theorem Reader.Reads.alike {reader : Reader} {spells : List String → Command → Prop}
    (h : reader.Reads spells) (hatomic : ∀ args, Reading.Atomic (reader args))
    {args args' : List String} (hs : ∀ command, spells args command ↔ spells args' command)
    (draft : Draft) : Reading.Alike (reader args) (reader args') draft := by
  refine (hatomic args).alike (hatomic args') fun command after => ?_
  rw [h args draft command after, h args' draft command after, hs command]

/-- The options after the groups of a `Press`, or after the button and the frame of a `Hit`, may
come in any order. -/
theorem options_any_order (hp : options.Perm others) (draft : Draft) :
    (∀ groupsText, Reading.Alike (Press.read (groupsText :: options))
      (Press.read (groupsText :: others)) draft) ∧
    ∀ symbol frameText, Reading.Alike (Hit.read (symbol :: frameText :: options))
      (Hit.read (symbol :: frameText :: others)) draft :=
  ⟨fun groupsText => press_reads.alike press_atomic (spells_press_perm hp groupsText) draft,
    fun symbol frameText => hit_reads.alike hit_atomic (spells_hit_perm hp symbol frameText) draft⟩

/-- The same hit in both orders, and a press that fails in one order and so in the other. -/
theorem options_any_order_hit :
    let draft : Draft := Draft.setStarted {} 2
    ["-l=2", "-c=-5", "-s=7"].Perm ["-s=7", "-l=2", "-c=-5"] ∧
    (∃ command after,
      (Hit.read ["A", "9", "-l=2", "-c=-5", "-s=7"]).run draft = (.ok command, after) ∧
      (Hit.read ["A", "9", "-s=7", "-l=2", "-c=-5"]).run draft = (.ok command, after)) ∧
    ["-d=1", "-d=1", "-x=1"].Perm ["-x=1", "-d=1", "-d=1"] ∧
    (Press.read ["A", "-d=1", "-d=1", "-x=1"]).run draft = (.error .repeatedOption, draft) ∧
    ∃ error, (Press.read ["A", "-x=1", "-d=1", "-d=1"]).run draft = (.error error, draft) := by
  intro draft
  have hhit : ["-l=2", "-c=-5", "-s=7"].Perm ["-s=7", "-l=2", "-c=-5"] := by decide
  have hpress : ["-d=1", "-d=1", "-x=1"].Perm ["-x=1", "-d=1", "-d=1"] := by decide
  have hsame := (options_any_order hhit draft).2 "A" "9"
  have hfail := (options_any_order hpress draft).1 "A"
  exact ⟨hhit, ⟨_, _, rfl, hsame⟩, hpress, rfl, hfail⟩

end PadScript
