import PadScript.Proofs.Script.Spelling

/-!
# The option of a start

A start takes whatever follows `-s=` for its digit. The other commands take an option apart first,
which needs a value, without a line feed. The two ways of reading differ only in how they report an
option that begins with `-s=` and has no such value; everything else they accept, claim and report
alike (`start_option`).
-/

namespace PadScript

/-- Reads a start the way options of the other commands are read. -/
def Start.readApart (option : String) : Reading Command := do
  let options ← readOptions ['s'] [option]
  let start ← Reading.claimStart (options.lookup 's')
  return .start { start }

def Start.OptionFormed (option : String) : Prop :=
  4 ≤ option.length ∧ ['-', 's', '='] <+: option.toList

/-- Nothing after `-s=`, or a line feed. -/
def Start.Unvalued (option : String) : Prop :=
  ∃ value, option.toList = '-' :: 's' :: '=' :: value ∧ (value = [] ∨ '\n' ∈ value)

section

variable {option text : String} {value : List Char} {draft after : Draft}

theorem splitOption?_of_valued {letter : Char} (hlower : letter.isLower = true)
    (h : option.toList = '-' :: letter :: '=' :: value) (hvalue : ¬ (value = [] ∨ '\n' ∈ value)) :
    splitOption? option = some (letter, String.ofList value) := by
  obtain ⟨hne, hfeed⟩ := not_or.1 hvalue
  exact splitOption?_eq_some.2 ⟨by rw [h, String.toList_ofList], hlower,
    by rwa [String.toList_ofList], by rwa [String.toList_ofList]⟩

theorem splitOption?_of_unvalued (h : Start.Unvalued option) : splitOption? option = none := by
  obtain ⟨value, htext, hvalue⟩ := h
  unfold splitOption?
  rw [htext]
  refine if_neg ?_
  rintro ⟨-, hne, hfeed⟩
  exact hvalue.elim hne hfeed

theorem readOptions_of_malformed (letters : List Char) (h : splitOption? option = none) :
    readOptions letters [option] = .error .malformedOption := by
  simp [readOptions, readOptionsAfter, h]

theorem readOptions_of_other (h : ¬ ['-', 's', '='] <+: option.toList) :
    readOptions ['s'] [option] = .error .malformedOption := by
  cases hsplit : splitOption? option with
  | none => exact readOptions_of_malformed _ hsplit
  | some pair =>
    obtain ⟨letter, text⟩ := pair
    have htext := (splitOption?_eq_some.1 hsplit).1
    have hletter : letter ≠ 's' := by
      rintro rfl
      exact h ⟨text.toList, htext.symm⟩
    simp [readOptions, readOptionsAfter, hsplit, hletter]

theorem readOptions_of_valued
    (h : option.toList = '-' :: 's' :: '=' :: value) (hvalue : ¬ (value = [] ∨ '\n' ∈ value)) :
    readOptions ['s'] [option] = .ok [('s', String.ofList value)] := by
  have hsplit := splitOption?_of_valued (by decide) h hvalue
  simp [readOptions, readOptionsAfter, hsplit]

theorem readLabel_error {letter : Char} {error : ReadError} :
    readLabel letter text = .error error ↔
      Label.ofDigit? text = none ∧ error = .notDigit letter := by
  unfold readLabel
  cases Label.ofDigit? text <;> simp [eq_comm]

theorem Reading.lift_error {e : Except ReadError α} {error : ReadError} :
    (liftM e : Reading α).run draft = (.error error, after) ↔ e = .error error ∧ draft = after := by
  change (e, draft) = (Except.error error, after) ↔ _
  simp

theorem claim_error {label : Label} {error : ReadError}
    (h : (Reading.claim label).run draft = (.error error, after)) :
    error = .alreadyStarted label := by
  change (if draft.isStarted label = true then _ else _ : Reading Unit).run draft = _ at h
  split at h
  · cases h
    rfl
  · cases h

theorem claimStart_error {error : ReadError}
    (h : (Reading.claimStart (some text)).run draft = (.error error, after)) :
    error = .notDigit 's' ∨ ∃ label, error = .alreadyStarted label := by
  rcases Reading.bind_error.1 h with hread | ⟨label, middle, -, hrest⟩
  · exact .inl (readLabel_error.1 (Reading.lift_error.1 hread).1).2
  · rcases Reading.bind_error.1 hrest with hclaim | ⟨_, _, -, hpure⟩
    · exact .inr ⟨label, claim_error hclaim⟩
    · cases hpure

theorem claimStart_of_not_digit (h : Label.ofDigit? text = none) :
    (Reading.claimStart (some text)).run draft = (.error (.notDigit 's'), draft) :=
  Reading.bind_error.2 (.inl (Reading.lift_error.2 ⟨readLabel_error.2 ⟨h, rfl⟩, rfl⟩))

theorem start_run_of_other (h : ¬ ['-', 's', '='] <+: option.toList) :
    (Start.read [option]).run draft = (.error .malformedOption, draft) := by
  simp only [Start.read]
  split
  · rename_i value htext
    exact absurd ⟨value, htext.symm⟩ h
  · rfl

theorem start_run_of_formed (h : option.toList = '-' :: 's' :: '=' :: value) :
    (Start.read [option]).run draft =
      (Reading.claimStart (some (String.ofList value)) >>= fun start =>
        pure (.start { start })).run draft := by
  simp only [Start.read, h]

theorem start_run_ne_malformed (h : option.toList = '-' :: 's' :: '=' :: value) :
    (Start.read [option]).run draft ≠ (.error .malformedOption, after) := by
  rw [start_run_of_formed h]
  intro hrun
  rcases Reading.bind_error.1 hrun with hclaim | ⟨_, _, -, hpure⟩
  · rcases claimStart_error hclaim with herror | ⟨label, herror⟩ <;> cases herror
  · cases hpure

theorem start_malformed_iff : (Start.read [option]).run draft = (.error .malformedOption, draft) ↔
    ¬ Start.OptionFormed option ∧ option ≠ "-s=" := by
  constructor
  · intro h
    have hother : ¬ ['-', 's', '='] <+: option.toList := by
      rintro ⟨value, htext⟩
      exact start_run_ne_malformed htext.symm h
    refine ⟨fun hformed => hother hformed.2, ?_⟩
    rintro rfl
    exact hother ⟨[], rfl⟩
  · rintro ⟨hformed, hne⟩
    refine start_run_of_other ?_
    rintro ⟨value, htext⟩
    have hvalue : value ≠ [] := by
      rintro rfl
      exact hne (String.toList_inj.1 htext.symm)
    refine hformed ⟨?_, value, htext⟩
    rw [← String.length_toList, ← htext, List.length_append]
    exact Nat.add_le_add_left (List.length_pos_of_ne_nil hvalue) 3

theorem readApart_of_malformed (h : readOptions ['s'] [option] = .error .malformedOption) :
    (Start.readApart option).run draft = (.error .malformedOption, draft) := by
  unfold Start.readApart
  rw [h]
  rfl

theorem readApart_of_valued (h : option.toList = '-' :: 's' :: '=' :: value)
    (hvalue : ¬ (value = [] ∨ '\n' ∈ value)) :
    (Start.readApart option).run draft = (Start.read [option]).run draft := by
  rw [start_run_of_formed h, Start.readApart, readOptions_of_valued h hvalue]
  rfl

theorem start_run_of_unvalued (h : Start.Unvalued option) :
    (Start.read [option]).run draft = (.error (.notDigit 's'), draft) := by
  obtain ⟨value, htext, hvalue⟩ := id h
  have hdigit : Label.ofDigit? (String.ofList value) = none := by
    refine Option.eq_none_iff_forall_ne_some.2 fun label hlabel => ?_
    have hsplit := (splitOption?_of_digit hlabel).2 (by rw [htext, String.toList_ofList])
    cases hsplit.symm.trans (splitOption?_of_unvalued h)
  rw [start_run_of_formed htext]
  exact Reading.bind_error.2 (.inl (claimStart_of_not_digit hdigit))

end

/-- A start reports a malformed option for all texts that are not formed as one, but for the bare
`-s=`. It reads its option just as the other commands do, unless that has no value: then it speaks
of a digit where the others find the option malformed. -/
theorem start_option (option : String) (draft : Draft) :
    ((Start.read [option]).run draft = (.error .malformedOption, draft) ↔
      ¬ Start.OptionFormed option ∧ option ≠ "-s=") ∧
    (Start.Unvalued option ∧ (Start.read [option]).run draft = (.error (.notDigit 's'), draft) ∧
        (Start.readApart option).run draft = (.error .malformedOption, draft) ∨
      ¬ Start.Unvalued option ∧
        (Start.read [option]).run draft = (Start.readApart option).run draft) := by
  refine ⟨start_malformed_iff, ?_⟩
  by_cases hvalue : Start.Unvalued option
  · have hmalformed := readOptions_of_malformed ['s'] (splitOption?_of_unvalued hvalue)
    exact .inl ⟨hvalue, start_run_of_unvalued hvalue, readApart_of_malformed hmalformed⟩
  · refine .inr ⟨hvalue, ?_⟩
    by_cases hprefix : ['-', 's', '='] <+: option.toList
    · obtain ⟨value, htext⟩ := hprefix
      exact (readApart_of_valued htext.symm fun h => hvalue ⟨value, htext.symm, h⟩).symm
    · rw [start_run_of_other hprefix, readApart_of_malformed (readOptions_of_other hprefix)]

/-- The bare `-s=` is not formed as an option, and a press and a hit say so. -/
theorem start_option_bare :
    ¬ Start.OptionFormed "-s=" ∧
    (Start.read ["-s="]).run {} = (.error (.notDigit 's'), {}) ∧
    (Start.readApart "-s=").run {} = (.error .malformedOption, {}) ∧
    (Press.read ["A", "-s="]).run {} = (.error .malformedOption, {}) ∧
    (Hit.read ["A", "0", "-s="]).run {} = (.error .malformedOption, {}) ∧
    (ReadError.notDigit 's').message ≠ ReadError.malformedOption.message := by
  refine ⟨fun h => absurd h.1 (by decide), rfl, rfl, rfl, rfl, by decide⟩

end PadScript
