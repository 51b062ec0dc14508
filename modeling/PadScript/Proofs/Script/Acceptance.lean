import PadScript.Proofs.Script.Spelling
import PadScript.Script

/-!
# Which sources are scripts

A registry understands a way of spelling when its readers do. Then a source is a
script exactly when each of its command lines spells a command by itself and the
timers of all the commands together are in order, and the script lists these
commands (`ofLines_eq_ok_iff`). For the built-in commands that order is said without
a draft: no timer is started twice, and a hit counts on a timer that an earlier line
starts (`accepted_iff`).
-/

namespace PadScript

-- ---------------------------------------------------------------------------
-- Command lines
-- ---------------------------------------------------------------------------

theorem Text.words_cons_ne_nil {c : Char} {s : List Char} (h : isBlank c = false) :
    words (c :: s) ≠ [] := by
  rw [words, List.splitOnP_cons_eq_if_modifyHead]
  simp only [h, Bool.false_eq_true, if_false]
  cases hp : s.splitOnP isBlank with
  | nil => exact absurd hp (List.splitOnP_ne_nil _ _)
  | cons first rest => simp

theorem Tokens.joinCommas_cons (c : Char) (s : List Char) :
    ∃ rest, Tokens.joinCommas (c :: s) = c :: rest := by
  rw [joinCommas.eq_def]
  split
  · rename_i rest h
    obtain ⟨rfl, -⟩ := List.cons.inj h
    exact ⟨joinCommas rest, rfl⟩
  · rename_i rest _ h
    obtain ⟨rfl, -⟩ := List.cons.inj h
    exact ⟨joinCommas rest, rfl⟩
  · rename_i h
    cases h

theorem tokenize_ne_nil (line : String) : tokenize line ≠ some [] := by
  intro h
  obtain ⟨tokens, ht, hnil⟩ := Option.map_eq_some_iff.1 h
  obtain rfl := List.map_eq_nil_iff.1 hnil
  unfold Tokens.ofChars at ht
  split at ht
  · cases ht
  · cases ht
  · rename_i trimmed hne _
    cases hc : Text.trimStart line.toList with
    | nil => exact hne hc
    | cons c rest =>
      have hblank : Text.isBlank c = false := by
        unfold Text.trimStart at hc
        have hw : line.toList.dropWhile Text.isBlank ≠ [] := by simp [hc]
        simpa [hc] using List.head_dropWhile_not Text.isBlank hw
      obtain ⟨rest', hj⟩ := Tokens.joinCommas_cons c rest
      rw [hc, hj] at ht
      exact Text.words_cons_ne_nil hblank (Option.some.inj ht)

def commandLines (source : List String) : List (List String) := source.filterMap tokenize

def numberedLines (source : List (String × Nat)) : List (List String × Nat) :=
  source.filterMap fun line => (tokenize line.1).map fun tokens => (tokens, line.2)

-- ---------------------------------------------------------------------------
-- One line
-- ---------------------------------------------------------------------------

/-- Each keyword has a reader for what is spelled with it, and no other keyword spells anything. -/
structure Registry.Understands (registry : Registry) (spells : List String → Command → Prop) :
    Prop where
  reads : ∀ {keyword reader}, registry.get? keyword = some reader →
    reader.Reads fun args => spells (keyword :: args)
  known : ∀ {keyword args command}, spells (keyword :: args) command →
    (registry.get? keyword).isSome

def SpellsOrResets (line : List String) (command : Command) : Prop :=
  Spells line command ∨ line = ["Reset"] ∧ command = .extension SoftReset.routine

theorem Spells.keyword {keyword : String} {args : List String} {command : Command}
    (h : Spells (keyword :: args) command) : keyword ∈ reservedKeywords := by
  cases command with
  | press press =>
    obtain ⟨_, _, hl, -⟩ := h
    simp [(List.cons.inj hl).1, reservedKeywords]
  | wait wait =>
    obtain ⟨_, hl, -⟩ := h
    simp [(List.cons.inj hl).1, reservedKeywords]
  | start start =>
    obtain ⟨_, hl, -⟩ := h
    simp [(List.cons.inj hl).1, reservedKeywords]
  | hit hit =>
    obtain ⟨_, _, _, hl, -⟩ := h
    simp [(List.cons.inj hl).1, reservedKeywords]
  | extension routine => exact absurd h id

theorem Registry.mem_of_get? {registry : Registry} {keyword : String} {reader : Reader}
    (h : registry.get? keyword = some reader) : (keyword, reader) ∈ registry.entries := by
  obtain ⟨before, after, he, -⟩ := List.lookup_eq_some_iff.1 h
  simp [he]

theorem builtin_understands : Registry.builtin.Understands Spells where
  reads h := by
    have hmem := Registry.mem_of_get? h
    simp only [Registry.builtin, List.mem_cons, Prod.mk.injEq, List.not_mem_nil, or_false] at hmem
    rcases hmem with ⟨rfl, rfl⟩ | ⟨rfl, rfl⟩ | ⟨rfl, rfl⟩ | ⟨rfl, rfl⟩
    · exact hit_reads
    · exact press_reads
    · exact start_reads
    · exact wait_reads
  known h := by
    have hk := h.keyword
    simp only [reservedKeywords, List.mem_cons, List.not_mem_nil, or_false] at hk
    rcases hk with rfl | rfl | rfl | rfl <;> rfl

theorem registerReset_builtin : Registry.builtin.registerReset = .ok ⟨[("Hit", Hit.read),
    ("Press", Press.read), ("Reset", SoftReset.read), ("Start", Start.read),
    ("Wait", Wait.read)]⟩ := rfl

theorem Reader.Reads.orResets {reader : Reader} {keyword : String} (hk : keyword ≠ "Reset")
    (h : reader.Reads fun args => Spells (keyword :: args)) :
    reader.Reads fun args => SpellsOrResets (keyword :: args) := by
  intro args draft command after
  simpa [SpellsOrResets, hk] using h args draft command after

theorem reset_reads_orResets :
    SoftReset.read.Reads fun args => SpellsOrResets ("Reset" :: args) := by
  intro args draft command after
  have hno : ¬ Spells ("Reset" :: args) command := fun h => by
    simpa [reservedKeywords] using h.keyword
  simpa [SpellsOrResets, hno] using reset_reads args draft command after

theorem registerReset_understands {registry : Registry}
    (h : Registry.builtin.registerReset = .ok registry) :
    registry.Understands SpellsOrResets := by
  obtain rfl := Except.ok.inj (registerReset_builtin.symm.trans h)
  constructor
  · intro keyword reader hr
    have hmem := Registry.mem_of_get? hr
    simp only [List.mem_cons, Prod.mk.injEq, List.not_mem_nil, or_false] at hmem
    rcases hmem with ⟨rfl, rfl⟩ | ⟨rfl, rfl⟩ | ⟨rfl, rfl⟩ | ⟨rfl, rfl⟩ | ⟨rfl, rfl⟩
    · exact hit_reads.orResets (by decide)
    · exact press_reads.orResets (by decide)
    · exact reset_reads_orResets
    · exact start_reads.orResets (by decide)
    · exact wait_reads.orResets (by decide)
  · intro keyword args command hs
    rcases hs with hs | ⟨hl, -⟩
    · have hk := hs.keyword
      simp only [reservedKeywords, List.mem_cons, List.not_mem_nil, or_false] at hk
      rcases hk with rfl | rfl | rfl | rfl <;> rfl
    · rw [(List.cons.inj hl).1]
      rfl

namespace ScriptDraft

def add (sofar : ScriptDraft) (line : Nat) (command : Command) : ScriptDraft where
  draft := { sofar.draft with line }.lay command
  steps := sofar.steps.push ⟨sofar.steps.size, line, command⟩

variable {registry : Registry} {spells : List String → Command → Prop}
  {sofar next : ScriptDraft}

theorem addLine_blank {text : String} {line : Nat} (ht : tokenize text = none) :
    sofar.addLine registry (text, line) = .ok next ↔ next = sofar := by
  simp [addLine, ht, eq_comm]

/-- What a command line comes to: no reader has its keyword, or the reader fails, or it gives
the command of one more step. -/
theorem addLine_cases (registry : Registry) (sofar : ScriptDraft) {text : String}
    {tokens : List String} (ht : tokenize text = some tokens) (line : Nat) :
    ∃ keyword args, tokens = keyword :: args ∧
    (registry.get? keyword = none ∧
        addLine registry sofar (text, line) = .error (.unknownCommand (line + 1) keyword) ∨
      ∃ reader, registry.get? keyword = some reader ∧
        ((∃ error after, (reader args).run { sofar.draft with line } = (.error error, after) ∧
            addLine registry sofar (text, line) = .error (.badCommand (line + 1) keyword error)) ∨
          ∃ command after, (reader args).run { sofar.draft with line } = (.ok command, after) ∧
            addLine registry sofar (text, line) =
              .ok ⟨after, sofar.steps.push ⟨sofar.steps.size, line, command⟩⟩)) := by
  cases tokens with
  | nil => exact absurd ht (tokenize_ne_nil text)
  | cons keyword args =>
    refine ⟨keyword, args, rfl, ?_⟩
    simp only [addLine, ht]
    cases hr : registry.get? keyword with
    | none => exact .inl ⟨rfl, rfl⟩
    | some reader =>
      refine .inr ⟨reader, rfl, ?_⟩
      rcases hrun : (reader args).run { sofar.draft with line } with ⟨error | command, after⟩
      · exact .inl ⟨error, after, rfl, by simp [hrun]⟩
      · exact .inr ⟨command, after, rfl, by simp [hrun]⟩

theorem addLine_ok (hu : registry.Understands spells) {text : String} {line : Nat}
    {tokens : List String} (ht : tokenize text = some tokens) :
    addLine registry sofar (text, line) = .ok next ↔ ∃ command, spells tokens command ∧
      sofar.draft.Permits command ∧ next = sofar.add line command := by
  cases tokens with
  | nil => exact absurd ht (tokenize_ne_nil text)
  | cons keyword args =>
    simp only [addLine, ht]
    cases hr : registry.get? keyword with
    | none =>
      refine iff_of_false (by simp) ?_
      rintro ⟨command, hs, -⟩
      simpa [hr] using hu.known hs
    | some reader =>
      have hreads := hu.reads hr args { sofar.draft with line }
      simp only
      rcases hrun : (reader args).run { sofar.draft with line } with ⟨_ | command, after⟩
      · refine iff_of_false (by simp) ?_
        rintro ⟨command, hs, hp, -⟩
        have := (hreads command _).2 ⟨hs, ⟨hp.source, hp.fresh⟩, rfl⟩
        rw [hrun] at this
        cases this
      · obtain ⟨hs, hp, rfl⟩ := (hreads command after).1 hrun
        simp only [Except.ok.injEq]
        constructor
        · rintro rfl
          exact ⟨command, hs, ⟨hp.source, hp.fresh⟩, rfl⟩
        · rintro ⟨command', hs', hp', rfl⟩
          have := (hreads command' _).2 ⟨hs', ⟨hp'.source, hp'.fresh⟩, rfl⟩
          rw [hrun] at this
          cases this
          rfl

end ScriptDraft

-- ---------------------------------------------------------------------------
-- Timers of all lines
-- ---------------------------------------------------------------------------

def claims (commands : List Command) : List Label := commands.filterMap Command.start?

/-- After these timers have been claimed, each command counts on a claimed timer and
starts one that is not. -/
def TimersInOrder (claimed : List Label) : List Command → Prop
  | [] => True
  | command :: rest => (∀ label, command.source? = some label → label ∈ claimed) ∧
      (∀ label, command.start? = some label → label ∉ claimed) ∧
      TimersInOrder (claimed ++ command.start?.toList) rest

theorem claims_cons (command : Command) (rest : List Command) :
    claims (command :: rest) = command.start?.toList ++ claims rest := by
  cases h : command.start? <;> simp [claims, h]

theorem timersInOrder_iff {claimed : List Label} (hc : claimed.Nodup) {commands : List Command} :
    TimersInOrder claimed commands ↔ (claimed ++ claims commands).Nodup ∧
      ∀ before command after, commands = before ++ command :: after →
        ∀ label, command.source? = some label → label ∈ claimed ++ claims before := by
  induction commands generalizing claimed with
  | nil => simp [TimersInOrder, claims, hc]
  | cons command rest ih =>
    rw [TimersInOrder, claims_cons, ← List.append_assoc]
    have hfresh : (∀ label, command.start? = some label → label ∉ claimed) ↔
        (claimed ++ command.start?.toList).Nodup := by
      cases command.start? with
      | none => simpa using hc
      | some label =>
        simpa [List.nodup_append, hc] using
          ⟨fun hn other ho he => hn (he ▸ ho), fun hne hl => hne label hl rfl⟩
    constructor
    · rintro ⟨hsource, hstart, hrest⟩
      obtain ⟨hnodup, hearlier⟩ := (ih (hfresh.1 hstart)).1 hrest
      refine ⟨hnodup, ?_⟩
      rintro before counting after he label hl
      cases before with
      | nil =>
        obtain ⟨rfl, -⟩ := List.cons.inj he
        simpa [claims] using hsource label hl
      | cons first before =>
        obtain ⟨rfl, rfl⟩ := List.cons.inj he
        rw [claims_cons, ← List.append_assoc]
        exact hearlier before counting after rfl label hl
    · rintro ⟨hnodup, hearlier⟩
      have hcommand := (List.nodup_append.1 hnodup).1
      refine ⟨fun label hl => ?_, hfresh.2 hcommand, (ih hcommand).2 ⟨hnodup, ?_⟩⟩
      · simpa [claims] using hearlier [] command rest rfl label hl
      · rintro before counting after rfl label hl
        rw [List.append_assoc, ← claims_cons]
        exact hearlier (command :: before) counting after rfl label hl

def Draft.Models (draft : Draft) (claimed : List Label) : Prop :=
  ∀ label, draft.isStarted label = true ↔ label ∈ claimed

namespace Draft

variable {draft : Draft} {claimed : List Label}

theorem models_nil : Draft.Models {} [] := by simp [Models, isStarted]

theorem Models.permits_iff (hm : draft.Models claimed) {command : Command} :
    draft.Permits command ↔ (∀ label, command.source? = some label → label ∈ claimed) ∧
      ∀ label, command.start? = some label → label ∉ claimed := by
  constructor
  · rintro ⟨hsource, hfresh⟩
    refine ⟨fun label hl => (hm label).1 (hsource label hl), fun label hl hc => ?_⟩
    simpa [hfresh label hl] using (hm label).2 hc
  · rintro ⟨hsource, hfresh⟩
    refine ⟨fun label hl => (hm label).2 (hsource label hl), fun label hl => ?_⟩
    simpa [← hm label] using hfresh label hl

theorem isStarted_lay (draft : Draft) (command : Command) (label : Label) :
    (draft.lay command).isStarted label = (draft.claim command.start?).isStarted label := by
  unfold lay
  split <;> rfl

theorem isStarted_claim (draft : Draft) (start : Option Label) (label : Label) :
    (draft.claim start).isStarted label = true ↔
      draft.isStarted label = true ∨ start = some label := by
  cases start with
  | none => simp [claim]
  | some started =>
    by_cases h : label = started
    · simp [claim, h]
    · simp [claim, isStarted_setStarted_of_ne _ h, Ne.symm h]

theorem Models.lay (hm : draft.Models claimed) (command : Command) :
    (draft.lay command).Models (claimed ++ command.start?.toList) := by
  intro label
  rw [isStarted_lay, isStarted_claim, hm label, List.mem_append, Option.mem_toList]

theorem plan_lay (draft : Draft) (command : Command) :
    (draft.lay command).plan = draft.plan ++ command.planned?.toArray := by
  have hclaim : (draft.claim command.start?).plan = draft.plan := by
    cases command.start? <;> rfl
  unfold lay
  cases command.planned? with
  | none => simpa using hclaim
  | some hit => simp [hclaim]

end Draft

-- ---------------------------------------------------------------------------
-- Whole sources
-- ---------------------------------------------------------------------------

def Script.ofEntries (entries : List (Nat × Command)) : Script where
  steps := (entries.mapIdx fun index entry => ⟨index, entry.1, entry.2⟩).toArray
  plan := (entries.filterMap fun entry => entry.2.planned?).toArray

def Entered (spells : List String → Command → Prop) (lines : List (List String × Nat))
    (entries : List (Nat × Command)) : Prop :=
  List.Forall₂ (fun line entry => line.2 = entry.1 ∧ spells line.1 entry.2) lines entries

theorem Entered.spelled {spells : List String → Command → Prop} {lines : List (List String × Nat)}
    {entries : List (Nat × Command)} (h : Entered spells lines entries) {entry : Nat × Command}
    (hentry : entry ∈ entries) : ∃ line, spells line entry.2 := by
  induction h with
  | nil => cases hentry
  | cons hline _ ih =>
    rcases List.mem_cons.1 hentry with rfl | hentry
    · exact ⟨_, hline.2⟩
    · exact ih hentry

namespace ScriptDraft

variable {registry : Registry} {spells : List String → Command → Prop}
  {sofar final : ScriptDraft}

def addAll (sofar : ScriptDraft) (entries : List (Nat × Command)) : ScriptDraft :=
  entries.foldl (fun sofar entry => sofar.add entry.1 entry.2) sofar

theorem models_add {claimed : List Label} (hm : sofar.draft.Models claimed) (line : Nat)
    (command : Command) :
    (sofar.add line command).draft.Models (claimed ++ command.start?.toList) := by
  have hline : ({ sofar.draft with line } : Draft).Models claimed := hm
  exact hline.lay command

theorem addLines_ok (hu : registry.Understands spells) {claimed : List Label}
    (hm : sofar.draft.Models claimed) {source : List (String × Nat)} :
    source.foldlM (addLine registry) sofar = .ok final ↔ ∃ entries,
      Entered spells (numberedLines source) entries ∧
      TimersInOrder claimed (entries.map (·.2)) ∧ final = sofar.addAll entries := by
  -- A line changes the draft and what is claimed, which still fit each other afterwards.
  induction source generalizing sofar claimed with
  | nil =>
    constructor
    · rintro h
      obtain rfl := Except.ok.inj h
      exact ⟨[], .nil, trivial, rfl⟩
    · rintro ⟨entries, he, -, rfl⟩
      obtain rfl := List.forall₂_nil_left_iff.1 he
      rfl
  | cons line rest ih =>
    obtain ⟨text, number⟩ := line
    rw [List.foldlM_cons]
    cases ht : tokenize text with
    | none =>
      -- a blank line or a comment
      have hnone : addLine registry sofar (text, number) = .ok sofar := (addLine_blank ht).2 rfl
      have hlines : numberedLines ((text, number) :: rest) = numberedLines rest := by
        simp [numberedLines, ht]
      rw [hnone, hlines]
      exact ih hm
    | some tokens =>
      have hlines : numberedLines ((text, number) :: rest) =
          (tokens, number) :: numberedLines rest := by
        simp [numberedLines, ht]
      rw [hlines]
      constructor
      · intro h
        cases hadd : addLine registry sofar (text, number) with
        | error error => rw [hadd] at h; cases h
        | ok next =>
          rw [hadd] at h
          obtain ⟨command, hs, hp, rfl⟩ := (addLine_ok hu ht).1 hadd
          obtain ⟨hsource, hfresh⟩ := hm.permits_iff.1 hp
          obtain ⟨rest', hrest, ho, rfl⟩ := (ih (models_add hm number command)).1 h
          exact ⟨(number, command) :: rest', .cons ⟨rfl, hs⟩ hrest, ⟨hsource, hfresh, ho⟩, rfl⟩
      · rintro ⟨entries, he, ho, rfl⟩
        obtain ⟨⟨_, command⟩, rest', ⟨rfl, hs⟩, hrest, rfl⟩ := List.forall₂_cons_left_iff.1 he
        obtain ⟨hsource, hfresh, ho⟩ := ho
        have hp := hm.permits_iff.2 ⟨hsource, hfresh⟩
        rw [(addLine_ok hu ht).2 ⟨command, hs, hp, rfl⟩]
        exact (ih (models_add hm number command)).2 ⟨rest', hrest, ho, rfl⟩

theorem steps_addAll (sofar : ScriptDraft) (entries : List (Nat × Command)) :
    (sofar.addAll entries).steps = sofar.steps ++
      (entries.mapIdx fun index entry =>
        (⟨sofar.steps.size + index, entry.1, entry.2⟩ : Step)).toArray := by
  induction entries generalizing sofar with
  | nil => simp [addAll]
  | cons entry rest ih =>
    rw [addAll, List.foldl_cons, ← addAll, ih, List.mapIdx_cons]
    simp [add, Nat.add_assoc, Nat.add_comm 1]

theorem plan_addAll (sofar : ScriptDraft) (entries : List (Nat × Command)) :
    (sofar.addAll entries).draft.plan = sofar.draft.plan ++
      (entries.filterMap fun entry => entry.2.planned?).toArray := by
  induction entries generalizing sofar with
  | nil => simp [addAll]
  | cons entry rest ih =>
    rw [addAll, List.foldl_cons, ← addAll, ih, add, Draft.plan_lay]
    cases h : entry.2.planned? <;> simp [h]

end ScriptDraft

theorem ofLines_eq_ok {registry : Registry} {source : List String} {script : Script} :
    Script.ofLines registry source = .ok script ↔ ∃ read,
      source.zipIdx.foldlM (ScriptDraft.addLine registry) {} = .ok read ∧
      read.steps ≠ #[] ∧ script = ⟨read.steps, read.draft.plan⟩ := by
  unfold Script.ofLines
  cases source.zipIdx.foldlM (ScriptDraft.addLine registry) {} with
  | error error => exact iff_of_false (fun h => nomatch h) (by simp)
  | ok read =>
    change (if read.steps.isEmpty then Except.error ScriptError.empty
      else Except.ok (Script.mk read.steps read.draft.plan)) = _ ↔ _
    by_cases he : read.steps = #[]
    · simp [he]
    · simp only [Array.isEmpty_iff, he, if_false, Except.ok.injEq]
      constructor
      · rintro rfl
        exact ⟨read, rfl, he, rfl⟩
      · rintro ⟨_, rfl, -, rfl⟩
        rfl

/-- A source is a script exactly when each line spells a command and the timers of the
commands are in order; the script lists the commands. -/
theorem ofLines_eq_ok_iff {registry : Registry} {spells : List String → Command → Prop}
    (hu : registry.Understands spells) {source : List String} {script : Script} :
    Script.ofLines registry source = .ok script ↔ ∃ entries,
      Entered spells (numberedLines source.zipIdx) entries ∧
      TimersInOrder [] (entries.map (·.2)) ∧ entries ≠ [] ∧ script = .ofEntries entries := by
  have hsteps (entries : List (Nat × Command)) :
      (ScriptDraft.addAll {} entries).steps = (Script.ofEntries entries).steps := by
    simp [ScriptDraft.steps_addAll, Script.ofEntries]
  have hplan (entries : List (Nat × Command)) :
      (ScriptDraft.addAll {} entries).draft.plan = (Script.ofEntries entries).plan := by
    simp [ScriptDraft.plan_addAll, Script.ofEntries]
  have hempty (entries : List (Nat × Command)) :
      (Script.ofEntries entries).steps = #[] ↔ entries = [] := by
    simp [Script.ofEntries]
  have hlines (read : ScriptDraft) :
      source.zipIdx.foldlM (ScriptDraft.addLine registry) {} = .ok read ↔ ∃ entries,
        Entered spells (numberedLines source.zipIdx) entries ∧
        TimersInOrder [] (entries.map (·.2)) ∧ read = ScriptDraft.addAll {} entries :=
    ScriptDraft.addLines_ok hu Draft.models_nil
  simp only [ofLines_eq_ok, hlines]
  constructor
  · rintro ⟨_, ⟨entries, he, ho, rfl⟩, hne, rfl⟩
    rw [hsteps, Ne, hempty] at hne
    exact ⟨entries, he, ho, hne, by rw [hsteps, hplan]⟩
  · rintro ⟨entries, he, ho, hne, rfl⟩
    refine ⟨_, ⟨entries, he, ho, rfl⟩, ?_, by rw [hsteps, hplan]⟩
    rwa [hsteps, Ne, hempty]

theorem map_numberedLines (source : List (String × Nat)) :
    (numberedLines source).map (·.1) = commandLines (source.map (·.1)) := by
  rw [numberedLines, commandLines, List.map_filterMap, List.filterMap_map]
  congr
  funext line
  cases h : tokenize line.1 <;> simp [h]

theorem exists_entered {spells : List String → Command → Prop} {lines : List (List String × Nat)}
    {commands : List Command} :
    (∃ entries, Entered spells lines entries ∧ entries.map (·.2) = commands) ↔
      List.Forall₂ spells (lines.map (·.1)) commands := by
  constructor
  · rintro ⟨entries, he, rfl⟩
    rw [List.forall₂_map_left_iff, List.forall₂_map_right_iff]
    exact he.imp fun line entry h => h.2
  · intro h
    induction lines generalizing commands with
    | nil => exact ⟨[], .nil, (List.forall₂_nil_left_iff.1 h).symm⟩
    | cons line rest ih =>
      obtain ⟨command, rest', hs, hrest, rfl⟩ := List.forall₂_cons_left_iff.1 h
      obtain ⟨entries, he, rfl⟩ := ih hrest
      exact ⟨(line.2, command) :: entries, .cons ⟨rfl, hs⟩ he, rfl⟩

theorem sources_iff {commands : List Command} :
    (∀ (before : List Command) (command : Command) (after : List Command),
      commands = before ++ command :: after →
        ∀ label, command.source? = some label → label ∈ claims before) ↔
    ∀ (before : List Command) (hit : Hit) (after : List Command),
      commands = before ++ .hit hit :: after → hit.label ∈ claims before := by
  constructor
  · intro h before hit after he
    exact h before (.hit hit) after he hit.label rfl
  · intro h before command after he label hl
    cases command with
    | hit hit =>
      obtain rfl := Option.some.inj hl
      exact h before hit after he
    | _ => cases hl

/-- A source is read to the end exactly when each of its command lines is well formed by
itself, there is one, no timer is started by two of them, and each hit counts on a timer
that an earlier one starts. -/
theorem accepted_iff (source : List String) :
    (∃ script, Script.ofLines .builtin source = .ok script) ↔ ∃ commands,
      List.Forall₂ Spells (commandLines source) commands ∧ commands ≠ [] ∧
      (claims commands).Nodup ∧
      ∀ (before : List Command) (hit : Hit) (after : List Command),
        commands = before ++ .hit hit :: after → hit.label ∈ claims before := by
  have hlines : (numberedLines source.zipIdx).map (·.1) = commandLines source := by
    rw [map_numberedLines, List.zipIdx_map_fst]
  simp only [ofLines_eq_ok_iff builtin_understands, timersInOrder_iff List.nodup_nil,
    List.nil_append, sources_iff]
  constructor
  · rintro ⟨_, entries, he, ⟨hnodup, hearlier⟩, hne, -⟩
    refine ⟨entries.map (·.2), ?_, by simpa using hne, hnodup, hearlier⟩
    rw [← hlines]
    exact exists_entered.1 ⟨entries, he, rfl⟩
  · rintro ⟨commands, hs, hne, hnodup, hearlier⟩
    rw [← hlines] at hs
    obtain ⟨entries, he, rfl⟩ := exists_entered.2 hs
    exact ⟨_, entries, he, ⟨hnodup, hearlier⟩, by simpa using hne, rfl⟩

example : Script.ofLines .builtin ["# combo", "Start -s=0", "Hit A 10"] =
    .ok ⟨#[⟨0, 1, .start ⟨some 0⟩⟩, ⟨1, 2, .hit ⟨.a, 10, 0, 200, none⟩⟩], #[⟨0, 10⟩]⟩ := rfl

-- Each line is well formed by itself, but the hit counts on a timer that is started after it.
example : Script.ofLines .builtin ["Hit A 10", "Start -s=0"] =
    .error (.badCommand 1 "Hit" (.notStarted 0)) := rfl

end PadScript
