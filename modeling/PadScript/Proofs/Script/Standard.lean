import PadScript.Proofs.Script.Acceptance

/-!
# Scripts of the commands that come along

The built-in commands and `Reset`. A registry of these reads only scripts whose
commands are among them and whose timers are in order (`Script.Standard`), and that
is all that laws of their plays need to know about reading.
-/

namespace PadScript

-- ---------------------------------------------------------------------------
-- What they do
-- ---------------------------------------------------------------------------

theorem Routine.holdEach_cons (buttons : Buttons) (holdMs pauseMs : UInt32)
    (rest : List (Buttons × UInt32 × UInt32)) :
    holdEach ((buttons, holdMs, pauseMs) :: rest) =
      .check fun stopped => if stopped then .done () else
        hold buttons holdMs >>= fun stopped => if stopped then .done () else
          .pause (.delay pauseMs true) fun stopped => if stopped then .done () else
            holdEach rest := rfl

theorem Hit.routine_eq (hit : Hit) :
    hit.routine = .pause (.timer hit.label hit.dueMs) fun stopped => if stopped then .done () else
      Routine.perform .nextHit >>= fun _ => Routine.startTimer? hit.start >>= fun _ =>
        Routine.hold hit.button hit.durationMs >>= fun _ => .done () := rfl

theorem SoftReset.routine_eq :
    routine = .consult fun context _ =>
      let seed := nextSeed (seedOf context.store)
      Routine.perform (.store (putSeed seed)) >>= fun _ =>
        Routine.log .info "reset" ("seed " ++ String.ofList (Text.hex 4 (seed >>> 16).toNat)) >>=
          fun _ => Routine.holdEach sequence := rfl

namespace Routine

variable {α β : Type} {performed : Action → Prop} {paused : Pause → Prop}

/-- Performs only such actions and makes only such pauses, whatever it is told on the way. -/
def Only (performed : Action → Prop) (paused : Pause → Prop) : Routine α → Prop
  | done _ | fail _ => True
  | act action next => performed action ∧ next.Only performed paused
  | check next => ∀ answer, (next answer).Only performed paused
  | pause p next => paused p ∧ ∀ answer, (next answer).Only performed paused
  | consult next => ∀ context now, (next context now).Only performed paused

theorem Only.bind {r : Routine α} {k : α → Routine β} (h : r.Only performed paused)
    (hk : ∀ a, (k a).Only performed paused) : (r >>= k).Only performed paused := by
  induction r with
  | done result => exact hk result
  | fail => trivial
  | act action next ih => exact ⟨h.1, ih h.2⟩
  | check next ih => exact fun answer => ih answer (h answer)
  | pause p next ih => exact ⟨h.1, fun answer => ih answer (h.2 answer)⟩
  | consult next ih => exact fun context now => ih context now (h context now)

theorem only_hold (hwrite : ∀ bytes, performed (.write bytes))
    (hdelay : ∀ ms, paused (.delay ms true)) (buttons : Buttons) (ms : UInt32) :
    (hold buttons ms).Only performed paused :=
  ⟨hwrite _, hdelay ms, fun _ => ⟨hwrite _, trivial⟩⟩

theorem only_holdEach (hwrite : ∀ bytes, performed (.write bytes))
    (hdelay : ∀ ms, paused (.delay ms true)) (holds : List (Buttons × UInt32 × UInt32)) :
    (holdEach holds).Only performed paused := by
  induction holds with
  | nil => trivial
  | cons hold rest ih =>
    obtain ⟨buttons, holdMs, pauseMs⟩ := hold
    rw [holdEach_cons]
    intro asked
    cases asked with
    | true => trivial
    | false =>
      refine (only_hold hwrite hdelay buttons holdMs).bind fun stopped => ?_
      cases stopped with
      | true => trivial
      | false =>
        refine ⟨hdelay pauseMs, fun stopped => ?_⟩
        cases stopped with
        | true => trivial
        | false => exact ih

end Routine

-- ---------------------------------------------------------------------------
-- What they hold
-- ---------------------------------------------------------------------------

namespace Buttons

theorem ne_released_of_ofSymbol? {symbol : String} {buttons : Buttons}
    (h : ofSymbol? symbol = some buttons) : buttons ≠ released := by
  have hall : ∀ entry ∈ symbols, entry.2 ≠ released := by decide
  obtain ⟨before, after, he, -⟩ := List.lookup_eq_some_iff.1 h
  exact hall (symbol, buttons) (by simp [he])

theorem baseBits_le (buttons : Buttons) : baseBits.toNat ≤ buttons.word.toNat := by
  have h := congrArg UInt16.toNat buttons.base
  rw [UInt16.toNat_and] at h
  rw [← h]
  exact Nat.and_le_left

theorem eq_released_of_le {buttons : Buttons} (h : buttons.word.toNat ≤ baseBits.toNat) :
    buttons = released := by
  have hw : buttons.word = baseBits := UInt16.toNat_inj.1 (Nat.le_antisymm h buttons.baseBits_le)
  rw [← ofBits_word buttons, hw, ← word_released, ofBits_word]

theorem eq_released_of_union {held more : Buttons} (h : held ∪ more = released) :
    held = released ∧ more = released := by
  have hw : held.word.toNat ||| more.word.toNat = baseBits.toNat := by
    rw [← UInt16.toNat_or, ← word_union, h, word_released]
  exact ⟨eq_released_of_le (hw ▸ Nat.left_le_or), eq_released_of_le (hw ▸ Nat.right_le_or)⟩

theorem eq_released_of_foldl_union {held : List Buttons} {start : Buttons}
    (h : held.foldl union start = released) :
    start = released ∧ ∀ buttons ∈ held, buttons = released := by
  induction held generalizing start with
  | nil => exact ⟨h, by simp⟩
  | cons first rest ih =>
    obtain ⟨hunion, hrest⟩ := ih h
    obtain ⟨hstart, hfirst⟩ := eq_released_of_union hunion
    exact ⟨hstart, List.forall_mem_cons.2 ⟨hfirst, hrest⟩⟩

theorem ne_released_of_ofChord? {chord : String} {buttons : Buttons}
    (h : ofChord? chord = some buttons) : buttons ≠ released := by
  obtain ⟨held, hheld, rfl⟩ := Option.map_eq_some_iff.1 h
  intro hr
  have hall := (eq_released_of_foldl_union hr).2
  cases hp : chord.toList.splitOnP (· == '+') with
  | nil => exact List.splitOnP_ne_nil _ _ hp
  | cons piece pieces =>
    have hspells := mapM_eq_some.1 hheld
    rw [hp] at hspells
    obtain ⟨first, rest, hfirst, -, rfl⟩ := List.forall₂_cons_left_iff.1 hspells
    exact ne_released_of_ofSymbol? hfirst (hall first List.mem_cons_self)

end Buttons

theorem SpellsGroups.held {text : String} {groups : List Buttons} (h : SpellsGroups text groups) :
    ∀ group ∈ groups, group ≠ .released := by
  intro group hg
  unfold SpellsGroups at h
  generalize text.toList.splitOnP (· == ',') = chords at h
  induction h with
  | nil => cases hg
  | cons hchord _ ih =>
    rcases List.mem_cons.1 hg with rfl | hg
    · exact Buttons.ne_released_of_ofChord? hchord
    · exact ih hg
-- ---------------------------------------------------------------------------
-- Which scripts have only them
-- ---------------------------------------------------------------------------

/-- The built-in registry, without `Reset` or with it. -/
def Registry.Standard (registry : Registry) : Prop :=
  registry = .builtin ∨ Registry.builtin.registerReset = .ok registry

namespace Command

/-- A built-in command, and whatever it holds is not nothing; or `Reset`. -/
def Standard : Command → Prop
  | press p => ∀ group ∈ p.groups, group ≠ .released
  | hit h => h.button ≠ .released
  | wait _ | start _ => True
  | extension routine => routine = SoftReset.routine

/-- What a standard command holds one after the other unless it is stopped, for how long,
and the pause after it. `Reset` taps Z, Left and twice A, and then holds Start and Y. -/
def holds : Command → List (Buttons × UInt32 × UInt32)
  | press p => p.groups.map fun group => (group, p.durationMs, p.intervalMs)
  | hit h => [(h.button, h.durationMs, 0)]
  | wait _ | start _ => []
  | extension _ => [(.z, 200, 2000), (.left, 200, 1000), (.a, 200, 1000), (.a, 200, 1000),
      (.start ∪ .y, 4000, 0)]

theorem holds_reset : (extension SoftReset.routine).holds = SoftReset.sequence := rfl

def presses (command : Command) : List Buttons := command.holds.map (·.1)

theorem Standard.held {command : Command} (h : command.Standard)
    {hold : Buttons × UInt32 × UInt32} (hh : hold ∈ command.holds) : hold.1 ≠ .released := by
  cases command with
  | press press =>
    obtain ⟨group, hg, rfl⟩ := List.mem_map.1 hh
    exact h group hg
  | hit hit =>
    obtain rfl := List.mem_singleton.1 hh
    exact h
  | wait | start => cases hh
  | extension routine =>
    have hall : ∀ hold ∈ (extension SoftReset.routine).holds, hold.1 ≠ .released := by decide
    exact hall hold hh

theorem standard_of_spellsOrResets {line : List String} {command : Command}
    (h : SpellsOrResets line command) : command.Standard := by
  rcases h with h | ⟨-, rfl⟩
  · cases command with
    | press press =>
      obtain ⟨_, _, -, h⟩ := h
      exact h.groups.held
    | hit hit =>
      obtain ⟨_, _, _, -, h⟩ := h
      exact Buttons.ne_released_of_ofSymbol? h.button
    | wait | start => trivial
    | extension routine => exact absurd h id
  · exact rfl

end Command

namespace Script

def commands (script : Script) : List Command := script.steps.toList.map (·.command)

structure Standard (script : Script) : Prop where
  each : ∀ command ∈ script.commands, command.Standard
  timers : TimersInOrder [] script.commands

theorem commands_ofEntries (entries : List (Nat × Command)) :
    (ofEntries entries).commands = entries.map (·.2) := by
  refine List.ext_getElem? fun index => ?_
  simp [commands, ofEntries, Function.comp_def]

theorem commands_split {script : Script} {step : Nat} {command : Command}
    (h : script.commands[step]? = some command) : script.commands =
      script.commands.take step ++ command :: script.commands.drop (step + 1) := by
  obtain ⟨hlt, he⟩ := List.getElem?_eq_some_iff.1 h
  rw [← he, List.getElem_cons_drop, List.take_append_drop]

def Starts (script : Script) (step : Nat) (label : Label) : Prop :=
  ∃ command, script.commands[step]? = some command ∧ command.start? = some label

namespace Standard

variable {script : Script} {step other : Nat} {label : Label}

theorem starts_unique (h : script.Standard) (hs : script.Starts step label)
    (ho : script.Starts other label) : step = other := by
  obtain ⟨command, hc, hl⟩ := hs
  obtain ⟨command', hc', hl'⟩ := ho
  have hnodup : (claims script.commands).Nodup := by
    simpa using ((timersInOrder_iff List.nodup_nil).1 h.timers).1
  rw [claims, List.Nodup, List.pairwise_filterMap, List.pairwise_iff_getElem] at hnodup
  obtain ⟨hlt, rfl⟩ := List.getElem?_eq_some_iff.1 hc
  obtain ⟨hlt', rfl⟩ := List.getElem?_eq_some_iff.1 hc'
  rcases Nat.lt_trichotomy step other with hso | hso | hso
  · exact absurd rfl (hnodup step other hlt hlt' hso label hl label hl')
  · exact hso
  · exact absurd rfl (hnodup other step hlt' hlt hso label hl' label hl)

theorem starts_before (h : script.Standard) {hit : Hit}
    (hc : script.commands[step]? = some (.hit hit)) :
    ∃ earlier, earlier < step ∧ script.Starts earlier hit.label := by
  have hmem :=
    ((timersInOrder_iff List.nodup_nil).1 h.timers).2 _ _ _ (commands_split hc) hit.label rfl
  obtain ⟨command, hm, hl⟩ := List.mem_filterMap.1 hmem
  obtain ⟨earlier, hearlier, rfl⟩ := List.getElem_of_mem hm
  rw [List.length_take] at hearlier
  refine ⟨earlier, by omega, _, List.getElem?_eq_getElem (by omega), ?_⟩
  rwa [List.getElem_take] at hl

end Standard

end Script

theorem Registry.Standard.understands {registry : Registry} (h : registry.Standard) :
    ∃ spells, registry.Understands spells ∧
      ∀ line command, spells line command → SpellsOrResets line command := by
  rcases h with rfl | h
  · exact ⟨Spells, builtin_understands, fun _ _ => .inl⟩
  · exact ⟨SpellsOrResets, registerReset_understands h, fun _ _ => id⟩

theorem Script.standard_of_ofLines {registry : Registry} {source : List String} {script : Script}
    (hr : registry.Standard) (hs : ofLines registry source = .ok script) : script.Standard := by
  obtain ⟨spells, hu, hspells⟩ := hr.understands
  obtain ⟨entries, he, ho, -, rfl⟩ := (ofLines_eq_ok_iff hu).1 hs
  constructor
  · rw [commands_ofEntries]
    intro command hc
    obtain ⟨entry, hentry, rfl⟩ := List.mem_map.1 hc
    obtain ⟨line, hline⟩ := he.spelled hentry
    exact Command.standard_of_spellsOrResets (hspells _ _ hline)
  · rw [commands_ofEntries]
    exact ho

end PadScript
