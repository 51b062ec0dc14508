import Mathlib.Data.List.TakeWhile
import PadScript.Proofs.Script.Acceptance

/-!
# The steps of a script and the lines of its source

The steps of a script are the command lines of its source in order, whatever the
readers of the registry make of the draft: reading a line adds one step for it at
that position, or none if it is blank or a comment (`steps_addLines`). Of the
built-in commands more is known: each has the keyword of its line, and the plan is
that of the hits among them (`steps_of_lines`).
-/

namespace PadScript

def isCommandLine (text : String) : Bool :=
  match text.toList.find? fun c => !Text.isBlank c with
  | some c => c != '#'
  | none => false

def commandPositions (source : List String) : List Nat :=
  (source.zipIdx.filter fun line => isCommandLine line.1).map (·.2)

def Command.keyword : Command → String
  | press _ => "Press"
  | wait _ => "Wait"
  | start _ => "Start"
  | hit _ => "Hit"
  | extension _ => "extension"

/-- The reader of the line's keyword made the command of the arguments, from some draft. -/
def Registry.Reads (registry : Registry) (line : List String) (command : Command) : Prop :=
  ∃ keyword args reader draft after, line = keyword :: args ∧
    registry.get? keyword = some reader ∧ (reader args).run draft = (.ok command, after)

-- ---------------------------------------------------------------------------
-- Positions of lines
-- ---------------------------------------------------------------------------

theorem isSome_tokenize (text : String) : (tokenize text).isSome = isCommandLine text := by
  have hfirst : text.toList.find? (fun c => !Text.isBlank c) =
      (Text.trimStart text.toList).head? := by
    rw [Text.trimStart, List.find?_not_eq_head?_dropWhile]
  rw [isCommandLine, hfirst, tokenize, Option.isSome_map]
  unfold Tokens.ofChars
  split
  · rename_i h
    simp [h]
  · rename_i h
    simp [h]
  · rename_i hblank hcomment
    cases htrim : Text.trimStart text.toList with
    | nil => exact absurd htrim hblank
    | cons c rest =>
      have hc : c ≠ '#' := fun h => hcomment rest (h ▸ htrim)
      simp [hc]

theorem map_snd_numberedLines (source : List String) :
    (numberedLines source.zipIdx).map (·.2) = commandPositions source := by
  unfold numberedLines commandPositions
  induction source.zipIdx with
  | nil => rfl
  | cons line rest ih =>
    rw [List.filter_cons, ← isSome_tokenize]
    cases ht : tokenize line.1 <;> simp [ht, ih]

theorem pairwise_commandPositions (source : List String) :
    (commandPositions source).Pairwise (· < ·) := by
  have hsub : (commandPositions source).Sublist (source.zipIdx.map (·.2)) :=
    List.filter_sublist.map _
  rw [List.zipIdx_map_snd] at hsub
  exact (List.pairwise_lt_range' 1).sublist hsub

theorem mem_numberedLines {source : List String} {tokens : List String} {position : Nat}
    (h : (tokens, position) ∈ numberedLines source.zipIdx) :
    ∃ text, source[position]? = some text ∧ tokenize text = some tokens := by
  obtain ⟨⟨text, _⟩, hline, ht⟩ := List.mem_filterMap.1 h
  obtain ⟨_, htokens, he⟩ := Option.map_eq_some_iff.1 ht
  cases he
  exact ⟨text, List.mem_zipIdx_iff_getElem?.1 hline, htokens⟩

-- ---------------------------------------------------------------------------
-- Entries
-- ---------------------------------------------------------------------------

namespace Entered

variable {spells : List String → Command → Prop} {lines : List (List String × Nat)}
  {entries : List (Nat × Command)}

theorem positions (h : Entered spells lines entries) : entries.map (·.1) = lines.map (·.2) := by
  induction h with
  | nil => rfl
  | cons hline _ ih => rw [List.map_cons, List.map_cons, ih, hline.1]

theorem line (h : Entered spells lines entries) {entry : Nat × Command} (he : entry ∈ entries) :
    ∃ tokens, (tokens, entry.1) ∈ lines ∧ spells tokens entry.2 := by
  induction h with
  | nil => cases he
  | @cons first entry' lines entries hline _ ih =>
    rcases List.mem_cons.1 he with rfl | he
    · exact ⟨first.1, by rw [← hline.1]; exact List.mem_cons_self, hline.2⟩
    · obtain ⟨tokens, hmem, hs⟩ := ih he
      exact ⟨tokens, List.mem_cons_of_mem _ hmem, hs⟩

end Entered

theorem Script.mem_steps_ofEntries {entries : List (Nat × Command)} {step : Step}
    (h : step ∈ (ofEntries entries).steps) : (step.line, step.command) ∈ entries := by
  obtain ⟨index, hlt, rfl⟩ := List.mem_mapIdx.1 (Array.mem_toList_iff.2 h)
  exact List.getElem_mem hlt

-- ---------------------------------------------------------------------------
-- Any registry
-- ---------------------------------------------------------------------------

namespace ScriptDraft

variable {registry : Registry} {sofar next final : ScriptDraft}

theorem steps_addLine {text : String} {line : Nat} {tokens : List String}
    (ht : tokenize text = some tokens) (h : addLine registry sofar (text, line) = .ok next) :
    ∃ command, registry.Reads tokens command ∧
      next.steps = sofar.steps.push ⟨sofar.steps.size, line, command⟩ := by
  obtain ⟨keyword, args, rfl, ⟨-, hnone⟩ | ⟨reader, hr, ⟨_, _, -, herror⟩ |
    ⟨command, after, hrun, hadd⟩⟩⟩ := addLine_cases registry sofar ht line
  · cases hnone.symm.trans h
  · cases herror.symm.trans h
  · obtain rfl := Except.ok.inj (hadd.symm.trans h)
    exact ⟨command, ⟨keyword, args, reader, _, after, rfl, hr, hrun⟩, rfl⟩

theorem steps_addLines {source : List (String × Nat)}
    (h : source.foldlM (addLine registry) sofar = .ok final) : ∃ entries,
      Entered registry.Reads (numberedLines source) entries ∧
      final.steps = (sofar.addAll entries).steps := by
  induction source generalizing sofar with
  | nil =>
    obtain rfl := Except.ok.inj h
    exact ⟨[], .nil, rfl⟩
  | cons line rest ih =>
    obtain ⟨text, number⟩ := line
    rw [List.foldlM_cons] at h
    cases hadd : addLine registry sofar (text, number) with
    | error error => rw [hadd] at h; cases h
    | ok next =>
      rw [hadd] at h
      obtain ⟨entries, he, hsteps⟩ := ih h
      cases ht : tokenize text with
      | none =>
        obtain rfl := (addLine_blank ht).1 hadd
        have hlines : numberedLines ((text, number) :: rest) = numberedLines rest := by
          simp [numberedLines, ht]
        exact ⟨entries, hlines ▸ he, hsteps⟩
      | some tokens =>
        obtain ⟨command, hreads, hpush⟩ := steps_addLine ht hadd
        have hlines : numberedLines ((text, number) :: rest) =
            (tokens, number) :: numberedLines rest := by
          simp [numberedLines, ht]
        refine ⟨(number, command) :: entries, hlines ▸ .cons ⟨rfl, hreads⟩ he, ?_⟩
        -- The steps to come depend on those that are there, not on the draft.
        change _ = ((sofar.add number command).addAll entries).steps
        rw [hsteps, steps_addAll, steps_addAll, hpush]
        rfl

end ScriptDraft

theorem steps_ofLines {registry : Registry} {source : List String} {script : Script}
    (h : Script.ofLines registry source = .ok script) : ∃ entries,
      Entered registry.Reads (numberedLines source.zipIdx) entries ∧
      script.steps = (Script.ofEntries entries).steps := by
  obtain ⟨read, hread, -, rfl⟩ := ofLines_eq_ok.1 h
  obtain ⟨entries, he, hsteps⟩ := ScriptDraft.steps_addLines hread
  refine ⟨entries, he, ?_⟩
  simp [hsteps, ScriptDraft.steps_addAll, Script.ofEntries]

structure Script.Numbered (script : Script) (source : List String) : Prop where
  index : ∀ (k : Nat) (step : Step), script.steps[k]? = some step → step.index = k
  line : script.steps.toList.map (·.line) = commandPositions source

theorem numbered_ofLines {registry : Registry} {source : List String} {script : Script}
    (h : Script.ofLines registry source = .ok script) : script.Numbered source := by
  obtain ⟨entries, he, hsteps⟩ := steps_ofLines h
  constructor
  · intro k step hk
    rw [hsteps] at hk
    obtain ⟨line, command, -, rfl⟩ : ∃ line command, entries[k]? = some (line, command) ∧
        ⟨k, line, command⟩ = step := by simpa [Script.ofEntries] using hk
    rfl
  · have hlines : script.steps.toList.map (·.line) = entries.map (·.1) := by
      rw [hsteps]
      exact List.ext_getElem? fun k => by simp [Script.ofEntries, Function.comp_def]
    rw [hlines, he.positions, map_snd_numberedLines]

theorem line_of_mem_steps {registry : Registry} {source : List String} {script : Script}
    (h : Script.ofLines registry source = .ok script) {step : Step} (hstep : step ∈ script.steps) :
    ∃ text tokens, source[step.line]? = some text ∧ tokenize text = some tokens ∧
      registry.Reads tokens step.command := by
  obtain ⟨entries, he, hsteps⟩ := steps_ofLines h
  obtain ⟨tokens, hline, hreads⟩ := he.line (Script.mem_steps_ofEntries (hsteps ▸ hstep))
  obtain ⟨text, htext, ht⟩ := mem_numberedLines hline
  exact ⟨text, tokens, htext, ht, hreads⟩

-- ---------------------------------------------------------------------------
-- The built-in commands
-- ---------------------------------------------------------------------------

theorem Spells.head? {line : List String} {command : Command} (h : Spells line command) :
    line.head? = some command.keyword := by
  cases command with
  | press press =>
    obtain ⟨_, _, rfl, -⟩ := h
    rfl
  | wait wait =>
    obtain ⟨_, rfl, -⟩ := h
    rfl
  | start start =>
    obtain ⟨_, rfl, -⟩ := h
    rfl
  | hit hit =>
    obtain ⟨_, _, _, rfl, -⟩ := h
    rfl
  | extension routine => exact absurd h id

theorem Script.plan_ofEntries (entries : List (Nat × Command)) :
    (ofEntries entries).plan.toList =
      (ofEntries entries).steps.toList.filterMap fun step => step.command.planned? := by
  have hcommands : (ofEntries entries).steps.toList.map (·.command) = entries.map (·.2) :=
    List.ext_getElem? fun k => by simp [ofEntries, Function.comp_def]
  calc (ofEntries entries).plan.toList
      = (entries.map (·.2)).filterMap Command.planned? := by
        rw [List.filterMap_map]
        rfl
    _ = _ := by rw [← hcommands, List.filterMap_map]; rfl

/-- Whatever a registry reads, the steps of a script are the command lines of its source in
order. Of the built-in commands, each is what its line spells, under the line's keyword, and
the plan lists the labels and frames of the hits. -/
theorem steps_of_lines (registry : Registry) {source : List String} {script : Script}
    (h : Script.ofLines registry source = .ok script) :
    script.Numbered source ∧ (script.steps.toList.map (·.line)).Pairwise (· < ·) ∧
    (registry = .builtin →
      (∀ step ∈ script.steps, ∃ text tokens, source[step.line]? = some text ∧
        tokenize text = some tokens ∧ tokens.head? = some step.command.keyword ∧
        Spells tokens step.command) ∧
      script.plan.toList = script.steps.toList.filterMap fun step => step.command.planned?) := by
  have hnumbered := numbered_ofLines h
  refine ⟨hnumbered, hnumbered.line ▸ pairwise_commandPositions source, ?_⟩
  rintro rfl
  obtain ⟨entries, he, -, -, rfl⟩ := (ofLines_eq_ok_iff builtin_understands).1 h
  refine ⟨fun step hstep => ?_, Script.plan_ofEntries entries⟩
  obtain ⟨tokens, hline, hs⟩ := he.line (Script.mem_steps_ofEntries hstep)
  obtain ⟨text, htext, ht⟩ := mem_numberedLines hline
  exact ⟨text, tokens, htext, ht, hs.head?, hs⟩

/-- The reader of an extension that plans a hit of its own and loses count of the lines. -/
def meddle : Reader := fun _ => do
  modify fun draft => { draft.addHit (Fin.last 9) 1 with line := 7 }
  return .wait ⟨0⟩

/-- Comments and blank lines are left out, a hit is planned where it was corrected to, and an
extension cannot change where the steps are. -/
theorem steps_of_lines_mixed :
    Script.ofLines .builtin
        ["# intro", "", "Start -s=0", "  # hit it", "Hit A 10 -c=-3", "Wait 5"] =
        .ok (.ofEntries [(2, .start ⟨some 0⟩), (4, .hit ⟨.a, 7, 0, 200, none⟩), (5, .wait ⟨5⟩)]) ∧
      (Script.ofEntries [(2, .start ⟨some 0⟩), (4, .hit ⟨.a, 7, 0, 200, none⟩),
        (5, .wait ⟨5⟩)]).plan.toList = [⟨0, 7⟩] ∧
      ∃ script, Script.ofLines ⟨("Mark", meddle) :: Registry.builtin.entries⟩
          ["Mark", "# intro", "Mark", "Wait 5"] = .ok script ∧
        script.plan = #[⟨9, 1⟩, ⟨9, 1⟩] ∧ script.steps.toList.map (·.line) = [0, 2, 3] := by
  have hread : Script.ofLines .builtin
      ["# intro", "", "Start -s=0", "  # hit it", "Hit A 10 -c=-3", "Wait 5"] =
      .ok (.ofEntries [(2, .start ⟨some 0⟩), (4, .hit ⟨.a, 7, 0, 200, none⟩), (5, .wait ⟨5⟩)]) := by
    rfl
  have hmeddled : Script.ofLines ⟨("Mark", meddle) :: Registry.builtin.entries⟩
      ["Mark", "# intro", "Mark", "Wait 5"] =
      .ok ⟨#[⟨0, 0, .wait ⟨0⟩⟩, ⟨1, 2, .wait ⟨0⟩⟩, ⟨2, 3, .wait ⟨5⟩⟩], #[⟨9, 1⟩, ⟨9, 1⟩]⟩ := by rfl
  refine ⟨hread, ((steps_of_lines .builtin hread).2.2 rfl).2.trans rfl, _, hmeddled, rfl, ?_⟩
  exact (steps_of_lines _ hmeddled).1.line.trans (by decide +kernel)

end PadScript
