import Mathlib.Data.List.Enum
import Mathlib.Data.List.Induction
import PadScript.Proofs.Script.Numbering

/-!
# Prefixes of a source

A source is read line by line, so what its first lines are decides what their reading
gives. An error is the error of the first lines up to its own, whatever follows them,
and without its line they have none; of a script, the first lines are a script whose
steps and plan begin those of the whole (`first_error_wins`). That the plan only grows
is asked of the readers. Those that are put together from the operations of a draft
answer it (`Reading.Composed`), for none of these takes a planned hit back.
-/

namespace PadScript

-- ---------------------------------------------------------------------------
-- Readers that add to the plan
-- ---------------------------------------------------------------------------

def Reader.AddsToPlan (reader : Reader) : Prop :=
  ∀ args draft command after, (reader args).run draft = (.ok command, after) →
    draft.plan.toList <+: after.plan.toList

def Registry.AddsToPlan (registry : Registry) : Prop :=
  ∀ keyword reader, registry.get? keyword = some reader → reader.AddsToPlan

theorem Reader.Reads.addsToPlan {reader : Reader} {spells : List String → Command → Prop}
    (h : reader.Reads spells) : reader.AddsToPlan := by
  intro args draft command after hrun
  obtain ⟨-, -, rfl⟩ := (h args draft command after).1 hrun
  rw [Draft.plan_lay, Array.toList_append]
  exact List.prefix_append _ _

theorem Registry.Understands.addsToPlan {registry : Registry}
    {spells : List String → Command → Prop} (h : registry.Understands spells) :
    registry.AddsToPlan :=
  fun _ _ hr => (h.reads hr).addsToPlan

theorem Registry.AddsToPlan.register {registry next : Registry} {name : String} {reader : Reader}
    (h : registry.AddsToPlan) (hreader : reader.AddsToPlan)
    (hnext : registry.register name reader = .ok next) : next.AddsToPlan := by
  unfold Registry.register at hnext
  split at hnext
  · cases hnext
  · split at hnext
    · cases hnext
    · split at hnext
      · cases hnext
      · rename_i hfree
        cases hnext
        intro keyword other hother
        have hnone : registry.entries.lookup name = none := by
          exact Option.not_isSome_iff_eq_none.1 hfree
        by_cases hk : keyword = name
        · subst hk
          obtain rfl := Option.some.inj ((lookup_insertEntry_self reader hnone).symm.trans hother)
          exact hreader
        · refine h keyword other ?_
          rw [← hother]
          exact (lookup_insertEntry_of_ne reader registry.entries hk).symm

/-- A reading put together from what a draft offers: it looks at the draft, starts a timer,
plans a hit, changes the store, fails, and goes on after a failure. -/
inductive Reading.Composed : {α : Type} → Reading α → Prop
  | pure {α} (result : α) : Composed (pure result : Reading α)
  | fail {α} (error : ReadError) : Composed (throw error : Reading α)
  | look : Composed (get : Reading Draft)
  | start (label : Label) : Composed (modify fun draft => draft.setStarted label)
  | plan (label : Label) (frame : UInt32) : Composed (modify fun draft => draft.addHit label frame)
  | store (change : Store → Store) :
      Composed (modify fun draft => { draft with store := change draft.store })
  | bind {α β} {x : Reading α} {f : α → Reading β} (hx : Composed x) (hf : ∀ a, Composed (f a)) :
      Composed (x >>= f)
  | recover {α} {x : Reading α} {f : ReadError → Reading α} (hx : Composed x)
      (hf : ∀ error, Composed (f error)) : Composed (tryCatch x f)

theorem Reading.run_tryCatch {α : Type} (x : Reading α) (f : ReadError → Reading α)
    (draft : Draft) : (tryCatch x f).run draft = match x.run draft with
      | (.ok a, middle) => (.ok a, middle)
      | (.error e, middle) => (f e).run middle := by
  simp only [tryCatch, tryCatchThe, MonadExceptOf.tryCatch, ExceptT.tryCatch, ExceptT.run,
    ExceptT.mk, bind, StateT.bind]
  rcases x draft with ⟨_ | a, middle⟩ <;> rfl

theorem Reading.Composed.plan_grows {α : Type} {x : Reading α} (h : Reading.Composed x)
    (draft : Draft) : draft.plan.toList <+: (x.run draft).2.plan.toList := by
  induction h generalizing draft with
  | pure | fail | look | start | store => exact List.prefix_rfl
  | plan label frame =>
    change draft.plan.toList <+: (draft.plan.push _).toList
    rw [Array.toList_push]
    exact List.prefix_append _ _
  | @bind α β x f _ _ ihx ihf =>
    have hx := ihx draft
    rw [Reading.run_bind]
    rcases hrun : x.run draft with ⟨error | a, middle⟩
    · rwa [hrun] at hx
    · rw [hrun] at hx
      exact hx.trans (ihf a middle)
  | @recover α x f _ _ ihx ihf =>
    have hx := ihx draft
    rw [Reading.run_tryCatch]
    rcases hrun : x.run draft with ⟨error | a, middle⟩
    · rw [hrun] at hx
      exact hx.trans (ihf error middle)
    · rwa [hrun] at hx

theorem Reader.addsToPlan_of_composed {reader : Reader}
    (h : ∀ args, Reading.Composed (reader args)) : reader.AddsToPlan := by
  intro args draft command after hrun
  have hprefix := (h args).plan_grows draft
  rwa [hrun] at hprefix

-- ---------------------------------------------------------------------------
-- Reading lines one after the other
-- ---------------------------------------------------------------------------

namespace ScriptDraft

variable {registry : Registry} {sofar next final : ScriptDraft}

def ofLines (registry : Registry) (source : List String) : Except ScriptError ScriptDraft :=
  source.zipIdx.foldlM (addLine registry) {}

theorem ofLines_append (registry : Registry) (first rest : List String) :
    ofLines registry (first ++ rest) =
      ofLines registry first >>= (rest.zipIdx first.length).foldlM (addLine registry) := by
  rw [ofLines, List.zipIdx_append, List.foldlM_append, Nat.zero_add]
  rfl

theorem ofLines_concat (registry : Registry) (first : List String) (text : String) :
    ofLines registry (first ++ [text]) =
      ofLines registry first >>= fun read => addLine registry read (text, first.length) := by
  rw [ofLines_append]
  cases ofLines registry first with
  | error error => rfl
  | ok read =>
    change (List.foldlM (addLine registry) read [(text, first.length)]) = _
    rw [List.foldlM_cons]
    exact bind_pure _

theorem line?_of_addLine {text : String} {line : Nat} {error : ScriptError}
    (h : addLine registry sofar (text, line) = .error error) :
    error.line? = some (line + 1) ∧ isCommandLine text = true := by
  rw [← isSome_tokenize]
  cases ht : tokenize text with
  | none => simp [addLine, ht] at h
  | some tokens =>
    refine ⟨?_, rfl⟩
    obtain ⟨keyword, args, -, ⟨-, hnone⟩ | ⟨reader, -, ⟨_, _, -, herror⟩ | ⟨_, _, -, hadd⟩⟩⟩ :=
      addLine_cases registry sofar ht line
    · obtain rfl := Except.error.inj (hnone.symm.trans h)
      rfl
    · obtain rfl := Except.error.inj (herror.symm.trans h)
      rfl
    · cases hadd.symm.trans h

theorem exists_of_error {source : List String} {error : ScriptError}
    (h : ofLines registry source = .error error) : ∃ first text rest read,
      source = first ++ text :: rest ∧ ofLines registry first = .ok read ∧
      addLine registry read (text, first.length) = .error error := by
  induction source using List.reverseRec with
  | nil => cases h
  | append_singleton before last ih =>
    rw [ofLines_concat] at h
    cases hbefore : ofLines registry before with
    | error earlier =>
      rw [hbefore] at h
      cases h
      obtain ⟨first, text, rest, read, rfl, hread, hline⟩ := ih hbefore
      exact ⟨first, text, rest ++ [last], read, by simp, hread, hline⟩
    | ok read =>
      rw [hbefore] at h
      exact ⟨before, last, [], read, rfl, hbefore, h⟩

theorem plan_addLine (hr : registry.AddsToPlan) {line : String × Nat}
    (h : addLine registry sofar line = .ok next) :
    sofar.draft.plan.toList <+: next.draft.plan.toList := by
  obtain ⟨text, number⟩ := line
  cases ht : tokenize text with
  | none =>
    obtain rfl := (addLine_blank ht).1 h
    exact List.prefix_rfl
  | some tokens =>
    obtain ⟨keyword, args, -, ⟨-, hnone⟩ | ⟨reader, hget, ⟨_, _, -, herror⟩ |
      ⟨command, after, hrun, hadd⟩⟩⟩ :=
        addLine_cases registry sofar ht number
    · cases hnone.symm.trans h
    · cases herror.symm.trans h
    · obtain rfl := Except.ok.inj (hadd.symm.trans h)
      exact hr keyword reader hget args { sofar.draft with line := number } _ _ hrun

theorem plan_addLines (hr : registry.AddsToPlan) {source : List (String × Nat)}
    (h : source.foldlM (addLine registry) sofar = .ok final) :
    sofar.draft.plan.toList <+: final.draft.plan.toList := by
  induction source generalizing sofar with
  | nil =>
    obtain rfl := Except.ok.inj h
    exact List.prefix_rfl
  | cons line rest ih =>
    rw [List.foldlM_cons] at h
    cases hadd : addLine registry sofar line with
    | error error => rw [hadd] at h; cases h
    | ok next =>
      rw [hadd] at h
      exact (plan_addLine hr hadd).trans (ih h)

theorem steps_grow {source : List (String × Nat)}
    (h : source.foldlM (addLine registry) sofar = .ok final) :
    sofar.steps.toList <+: final.steps.toList := by
  obtain ⟨entries, -, hsteps⟩ := steps_addLines h
  rw [hsteps, steps_addAll, Array.toList_append]
  exact List.prefix_append _ _

theorem steps_eq_empty_iff {source : List String} {read : ScriptDraft}
    (h : ofLines registry source = .ok read) :
    read.steps = #[] ↔ ∀ text ∈ source, isCommandLine text = false := by
  obtain ⟨entries, he, hsteps⟩ := steps_addLines h
  have hpositions : entries.map (·.1) = commandPositions source := by
    rw [he.positions, map_snd_numberedLines]
  have hempty : read.steps = #[] ↔ entries = [] := by
    rw [hsteps, steps_addAll]
    simp
  have hnone : commandPositions source = [] ↔ ∀ text ∈ source, isCommandLine text = false := by
    rw [commandPositions, List.map_eq_nil_iff, List.filter_eq_nil_iff, List.forall_mem_zipIdx',
      List.forall_mem_iff_getElem]
    simp
  rw [hempty, ← hnone, ← hpositions, List.map_eq_nil_iff]

end ScriptDraft

-- ---------------------------------------------------------------------------
-- Sources
-- ---------------------------------------------------------------------------

namespace Script

variable {registry : Registry} {source : List String}

theorem ofLines_of_error {error : ScriptError}
    (h : ScriptDraft.ofLines registry source = .error error) :
    ofLines registry source = .error error := by
  rw [ScriptDraft.ofLines] at h
  rw [ofLines, h]
  rfl

theorem ofLines_of_read {read : ScriptDraft} (h : ScriptDraft.ofLines registry source = .ok read) :
    ofLines registry source =
      if read.steps = #[] then .error .empty else .ok ⟨read.steps, read.draft.plan⟩ := by
  rw [ScriptDraft.ofLines] at h
  rw [ofLines, h]
  change (if read.steps.isEmpty then Except.error ScriptError.empty
    else Except.ok (Script.mk read.steps read.draft.plan)) = _
  simp only [Array.isEmpty_iff]

theorem read_of_error {error : ScriptError} {line : Nat}
    (h : ofLines registry source = .error error) (hl : error.line? = some line) :
    ScriptDraft.ofLines registry source = .error error := by
  cases hread : ScriptDraft.ofLines registry source with
  | error earlier =>
    obtain rfl := Except.error.inj ((ofLines_of_error hread).symm.trans h)
    rfl
  | ok read =>
    rw [ofLines_of_read hread] at h
    split at h
    · cases h
      cases hl
    · cases h

end Script

/-- The first error of a source is there whatever follows its line, and not without its line.
The first lines of a script hold no command, or are a script that the whole goes on from; its
plan does so too, if no reader takes back what is planned. -/
theorem first_error_wins (registry : Registry) (source : List String) :
    (∀ error line, Script.ofLines registry source = .error error → error.line? = some line →
      0 < line ∧ line ≤ source.length ∧
      (∀ others, Script.ofLines registry (source.take line ++ others) = .error error) ∧
      ((∃ script, Script.ofLines registry (source.take (line - 1)) = .ok script) ∨
        Script.ofLines registry (source.take (line - 1)) = .error .empty)) ∧
    (∀ script, Script.ofLines registry source = .ok script → ∀ first, first <+: source →
      (Script.ofLines registry first = .error .empty ↔
        ∀ text ∈ first, isCommandLine text = false) ∧
      (Script.ofLines registry first = .error .empty ∨
        ∃ begun, Script.ofLines registry first = .ok begun ∧
          begun.steps.toList <+: script.steps.toList ∧
          (registry.AddsToPlan → begun.plan.toList <+: script.plan.toList))) := by
  refine ⟨fun error line herror hline => ?_, ?_⟩
  · obtain ⟨first, text, rest, read, rfl, hread, hadd⟩ :=
      ScriptDraft.exists_of_error (Script.read_of_error herror hline)
    obtain rfl : first.length + 1 = line :=
      Option.some.inj ((ScriptDraft.line?_of_addLine hadd).1.symm.trans hline)
    have htake : (first ++ text :: rest).take (first.length + 1) = first ++ [text] := by
      rw [List.take_length_add_append]
      rfl
    have hbefore : (first ++ text :: rest).take (first.length + 1 - 1) = first := by
      rw [Nat.add_sub_cancel, List.take_left]
    refine ⟨Nat.succ_pos _, by simp, fun others => ?_, ?_⟩
    · rw [htake]
      apply Script.ofLines_of_error
      rw [ScriptDraft.ofLines_append, ScriptDraft.ofLines_concat, hread]
      exact congrArg (· >>= _) hadd
    · rw [hbefore, Script.ofLines_of_read hread]
      split
      · exact .inr rfl
      · exact .inl ⟨_, rfl⟩
  · rintro script hscript first ⟨rest, rfl⟩
    obtain ⟨final, hfinal, hne, rfl⟩ := ofLines_eq_ok.1 hscript
    have happend := ScriptDraft.ofLines_append registry first rest
    rw [ScriptDraft.ofLines, hfinal] at happend
    cases hread : ScriptDraft.ofLines registry first with
    | error error =>
      rw [hread] at happend
      cases happend
    | ok read =>
      rw [hread] at happend
      have hrest : (rest.zipIdx first.length).foldlM (ScriptDraft.addLine registry) read =
          .ok final := happend.symm
      rw [Script.ofLines_of_read hread, ← ScriptDraft.steps_eq_empty_iff hread]
      split
      · rename_i hempty
        exact ⟨iff_of_true rfl hempty, .inl rfl⟩
      · rename_i hsteps
        refine ⟨iff_of_false (fun h => nomatch h) hsteps, .inr ⟨_, rfl, ?_, fun hr => ?_⟩⟩
        · exact ScriptDraft.steps_grow hrest
        · exact ScriptDraft.plan_addLines hr hrest

def startOver : Reader := fun _ => do
  set ({} : Draft)
  return .wait ⟨0⟩

/-- A reader is given the whole draft and may take back what is planned. -/
theorem plan_taken_back : ∃ registry script begun,
    Registry.builtin.register "Anew" startOver = .ok registry ∧
      Script.ofLines registry ["Start -s=0", "Hit A 10", "Anew"] = .ok script ∧
      Script.ofLines registry ["Start -s=0", "Hit A 10"] = .ok begun ∧
      ¬ begun.plan.toList <+: script.plan.toList :=
  ⟨⟨[("Anew", startOver), ("Hit", Hit.read), ("Press", Press.read), ("Start", Start.read),
      ("Wait", Wait.read)]⟩,
    ⟨#[⟨0, 0, .start ⟨some 0⟩⟩, ⟨1, 1, .hit ⟨.a, 10, 0, 200, none⟩⟩, ⟨2, 2, .wait ⟨0⟩⟩], #[]⟩,
    ⟨#[⟨0, 0, .start ⟨some 0⟩⟩, ⟨1, 1, .hit ⟨.a, 10, 0, 200, none⟩⟩], #[⟨0, 10⟩]⟩,
    rfl, rfl, rfl, by decide⟩

def mark : Reader := fun _ => do
  modify fun draft => draft.addHit (Fin.last 9) 1
  return .wait ⟨0⟩

theorem mark_addsToPlan : mark.AddsToPlan :=
  Reader.addsToPlan_of_composed fun _ => .bind (.plan _ _) fun _ => .pure _

theorem register_mark : Registry.builtin.register "Mark" mark = .ok ⟨[("Hit", Hit.read),
    ("Mark", mark), ("Press", Press.read), ("Start", Start.read), ("Wait", Wait.read)]⟩ := rfl

/-- A hit too early is the error however the source goes on, and not without its line. Of a
script with hits planned by an extension, the first lines have the first of the hits. -/
theorem first_error_wins_marked : ∃ registry, Registry.builtin.register "Mark" mark = .ok registry ∧
    Script.ofLines registry ["# intro", "Mark", "", "Hit A 10", "Start -s=0"] =
      .error (.badCommand 4 "Hit" (.notStarted 0)) ∧
    Script.ofLines registry ["# intro", "Mark", "", "Hit A 10", "Jump"] =
      .error (.badCommand 4 "Hit" (.notStarted 0)) ∧
    ∃ script begun, Script.ofLines registry ["Mark", "Start -s=0", "# so far", "Hit A 10", "Mark"] =
        .ok script ∧ script.plan = #[⟨9, 1⟩, ⟨0, 10⟩, ⟨9, 1⟩] ∧
      Script.ofLines registry ["Mark", "Start -s=0", "# so far"] = .ok begun ∧
      begun.steps.toList <+: script.steps.toList ∧ begun.plan.toList <+: script.plan.toList := by
  let registry : Registry := ⟨[("Hit", Hit.read), ("Mark", mark), ("Press", Press.read),
    ("Start", Start.read), ("Wait", Wait.read)]⟩
  have hadds : registry.AddsToPlan :=
    builtin_understands.addsToPlan.register mark_addsToPlan register_mark
  have hearly : Script.ofLines registry ["# intro", "Mark", "", "Hit A 10", "Start -s=0"] =
      .error (.badCommand 4 "Hit" (.notStarted 0)) := by rfl
  obtain ⟨-, -, hothers, -⟩ := (first_error_wins registry _).1 _ 4 hearly rfl
  have hscript : Script.ofLines registry
      ["Mark", "Start -s=0", "# so far", "Hit A 10", "Mark"] =
      .ok ⟨#[⟨0, 0, .wait ⟨0⟩⟩, ⟨1, 1, .start ⟨some 0⟩⟩, ⟨2, 3, .hit ⟨.a, 10, 0, 200, none⟩⟩,
        ⟨3, 4, .wait ⟨0⟩⟩], #[⟨9, 1⟩, ⟨0, 10⟩, ⟨9, 1⟩]⟩ := by rfl
  obtain ⟨hempty, hbegun⟩ := (first_error_wins registry _).2 _ hscript
    ["Mark", "Start -s=0", "# so far"] (by decide)
  obtain herror | ⟨begun, hread, hsteps, hplan⟩ := hbegun
  · exact absurd (hempty.1 herror "Mark" (by decide)) (by decide +kernel)
  · exact ⟨registry, register_mark, hearly, hothers ["Jump"], _, begun, hscript, rfl, hread,
      hsteps, hplan hadds⟩

end PadScript
