import PadScript.Proofs.Script.Registration
import PadScript.Proofs.Script.Values

/-!
# Lines that call a registered reader

A line of a registered name and its arguments, with one space between any two of them, is
read by the reader of that name, from exactly these arguments. The one exception is a name
that ends in a comma: the space after it is dropped, and the name takes the first argument
in, so that nothing is found under it (`registered_name_called`). Registering such a name
succeeds all the same.
-/

namespace PadScript

-- ---------------------------------------------------------------------------
-- Spaces after commas
-- ---------------------------------------------------------------------------

open Text

namespace Tokens

variable {s : List Char}

theorem joinCommas_cons_of_ne {c d : Char} (hd : d ≠ ' ') (s : List Char) :
    joinCommas (c :: d :: s) = c :: joinCommas (d :: s) := by
  rw [joinCommas]
  intro rest _ he
  exact hd (List.cons.inj he).1

theorem ne_space_of_solid {c : Char} (h : Solid s) (hc : c ∈ s) : c ≠ ' ' := by
  rintro rfl
  cases (h ' ' hc).symm.trans isBlank_space

theorem joinCommas_of_solid (h : Solid s) : joinCommas s = s := by
  induction s with
  | nil => rfl
  | cons c s ih =>
    have hs : Solid s := fun d hd => h d (List.mem_cons_of_mem c hd)
    cases s with
    | nil =>
      rw [joinCommas, joinCommas]
      intro rest hcomma hspace
      cases hspace
    | cons d s =>
      rw [joinCommas_cons_of_ne (ne_space_of_solid hs List.mem_cons_self), ih hs]

theorem joinCommas_comma_space (h : Solid s) (hcomma : s.getLast? = some ',') (rest : List Char) :
    joinCommas (s ++ ' ' :: rest) = s ++ joinCommas rest := by
  induction s with
  | nil => cases hcomma
  | cons c s ih =>
    have hs : Solid s := fun d hd => h d (List.mem_cons_of_mem c hd)
    cases s with
    | nil =>
      obtain rfl : c = ',' := by simpa using hcomma
      rfl
    | cons d s =>
      rw [List.getLast?_cons_cons] at hcomma
      rw [List.cons_append, List.cons_append,
        joinCommas_cons_of_ne (ne_space_of_solid hs List.mem_cons_self), ← List.cons_append,
        ih hs hcomma]
      rfl

end Tokens

open Tokens

-- ---------------------------------------------------------------------------
-- Words with one space between them
-- ---------------------------------------------------------------------------

theorem Piece.of_solid {piece : List Char} (h : Solid piece) (hne : piece ≠ [])
    (hclosed : piece.getLast? ≠ some ',') : Piece piece piece where
  joined := joinCommas_of_solid h
  solid := h
  nonempty := hne
  closed := hclosed

theorem Piece.takeIn {word piece token : List Char} (hword : Solid word)
    (hcomma : word.getLast? = some ',') (h : Piece piece token) :
    Piece (word ++ ' ' :: piece) (word ++ token) where
  joined := by rw [joinCommas_comma_space hword hcomma, h.joined]
  solid := List.forall_mem_append.2 ⟨hword, h.solid⟩
  nonempty := List.append_ne_nil_of_right_ne_nil _ h.nonempty
  closed := by
    obtain ⟨c, piece, rfl⟩ := List.exists_cons_of_ne_nil h.ne_nil
    rw [List.getLast?_append_cons, List.getLast?_cons_cons]
    exact h.closed

theorem spaced_intercalate (piece : List Char) (pieces : List (List Char)) :
    Spaced (piece :: pieces) ([' '].intercalate (piece :: pieces)) := by
  induction pieces generalizing piece with
  | nil =>
    have hlast : Spaced [piece] (piece ++ []) := .last (by simp [Blanks])
    rw [List.append_nil] at hlast
    rwa [List.intercalate_singleton]
  | cons second pieces ih =>
    rw [List.intercalate_cons_cons]
    exact .more (by simp [Blanks, isBlank_space]) (List.cons_ne_nil _ _) (ih second)

theorem intercalate_takeIn (word piece : List Char) (pieces : List (List Char)) :
    [' '].intercalate (word :: piece :: pieces) =
      [' '].intercalate ((word ++ ' ' :: piece) :: pieces) := by
  cases pieces with
  | nil => simp [List.intercalate_cons_cons]
  | cons second pieces => simp [List.intercalate_cons_cons]

theorem laidOut_intercalate (piece : List Char) (pieces : List (List Char)) :
    LaidOut (piece :: pieces) ([' '].intercalate (piece :: pieces)) :=
  ⟨[], _, by simp [Blanks], spaced_intercalate piece pieces, rfl⟩

theorem tokenize_of_solid {text : String} (h : Solid text.toList) (hne : text ≠ "")
    (hhash : text.toList.head? ≠ some '#') : tokenize text = some [text] := by
  obtain ⟨c, rest, hcons⟩ := List.exists_cons_of_ne_nil (mt String.toList_eq_nil_iff.1 hne)
  have htrim : trimStart text.toList = text.toList := by
    rw [hcons, trimStart, List.dropWhile_cons_of_neg (by simp [h c (by simp [hcons])])]
  have hwords : words (joinCommas text.toList) = [text.toList] := by
    rw [joinCommas_of_solid h, words_of_solid h (by simp [hcons])]
  have htokens : Tokens.ofChars text.toList = some [text.toList] := by
    unfold Tokens.ofChars
    rw [htrim]
    split
    · rename_i hnil
      cases hnil.symm.trans hcons
    · rename_i hfirst
      exact absurd (by rw [hfirst]; rfl) hhash
    · rw [hwords]
  rw [tokenize, htokens, Option.map_some, List.map_singleton, String.ofList_toList]

-- ---------------------------------------------------------------------------
-- Lines of names and arguments
-- ---------------------------------------------------------------------------

/-- A text that is one argument: without blanks, and with no comma that would take in the next. -/
structure ArgumentText (arg : String) : Prop where
  nonempty : arg ≠ ""
  solid : Solid arg.toList
  closed : arg.toList.getLast? ≠ some ','

theorem ArgumentText.piece {arg : String} (h : ArgumentText arg) : Piece arg.toList arg.toList :=
  .of_solid h.solid (mt String.toList_eq_nil_iff.1 h.nonempty) h.closed

def callLine (name : String) (args : List String) : String := " ".intercalate (name :: args)

theorem toList_callLine (name : String) (args : List String) :
    (callLine name args).toList = [' '].intercalate (name.toList :: args.map String.toList) :=
  String.toList_intercalate

theorem pieces_of_arguments {args : List String} (h : ∀ arg ∈ args, ArgumentText arg) :
    List.Forall₂ Piece (args.map String.toList) (args.map String.toList) := by
  refine List.forall₂_same.2 fun text htext => ?_
  obtain ⟨arg, harg, rfl⟩ := List.mem_map.1 htext
  exact (h arg harg).piece

theorem map_ofList_map_toList (texts : List String) :
    (texts.map String.toList).map String.ofList = texts := by
  simp [Function.comp_def]

variable {name : String} {args : List String}

theorem tokenize_callLine (h : UsableName name) (hclosed : name.toList.getLast? ≠ some ',')
    (hargs : ∀ arg ∈ args, ArgumentText arg) :
    tokenize (callLine name args) = some (name :: args) := by
  have hname : Piece name.toList name.toList :=
    .of_solid h.solid (mt String.toList_eq_nil_iff.1 h.nonempty) hclosed
  have hlaid : LaidOut (name.toList :: args.map String.toList) (callLine name args).toList := by
    rw [toList_callLine]
    exact laidOut_intercalate _ _
  have hpieces := List.Forall₂.cons hname (pieces_of_arguments hargs)
  rw [tokenize_of_laidOut hlaid hpieces h.noComment, map_ofList_map_toList, String.ofList_toList]

theorem tokenize_callLine_of_comma (h : UsableName name) (hcomma : name.toList.getLast? = some ',')
    {arg : String} (harg : ArgumentText arg) (hargs : ∀ arg ∈ args, ArgumentText arg) :
    tokenize (callLine name (arg :: args)) = some ((name ++ arg) :: args) := by
  have hlaid : LaidOut ((name.toList ++ ' ' :: arg.toList) :: args.map String.toList)
      (callLine name (arg :: args)).toList := by
    rw [toList_callLine, List.map_cons, intercalate_takeIn]
    exact laidOut_intercalate _ _
  have hpieces := List.Forall₂.cons (harg.piece.takeIn h.solid hcomma) (pieces_of_arguments hargs)
  have hhash : (name.toList ++ arg.toList).head? ≠ some '#' := by
    rw [List.head?_append_of_ne_nil _ (mt String.toList_eq_nil_iff.1 h.nonempty)]
    exact h.noComment
  rw [tokenize_of_laidOut hlaid hpieces hhash, map_ofList_map_toList, String.ofList_append,
    String.ofList_toList, String.ofList_toList]

-- ---------------------------------------------------------------------------
-- Sources of one line
-- ---------------------------------------------------------------------------

theorem linesOf_eq_singleton {text : String} (hfeed : '\n' ∉ text.toList) (hne : text ≠ "") :
    linesOf text = [text] := by
  have hpieces : text.toList.splitOnP (· == '\n') = [text.toList] :=
    List.splitOnP_eq_singleton fun c hc => beq_eq_false_iff_ne.2 fun he => hfeed (he ▸ hc)
  have hsome : text.toList.isEmpty = false :=
    List.isEmpty_eq_false_iff.2 (mt String.toList_eq_nil_iff.1 hne)
  simp [linesOf, Text.lines, hpieces, hsome]

theorem newline_notMem_callLine (h : UsableName name) (hargs : ∀ arg ∈ args, ArgumentText arg) :
    '\n' ∉ (callLine name args).toList := by
  intro hfeed
  have hblank : isBlank '\n' = true := by decide
  rw [toList_callLine] at hfeed
  rcases mem_intercalate hfeed with he | ⟨piece, hpiece, hfeed⟩
  · cases he
  · rcases List.mem_cons.1 hpiece with rfl | hpiece
    · cases (h.solid _ hfeed).symm.trans hblank
    · obtain ⟨arg, harg, rfl⟩ := List.mem_map.1 hpiece
      cases ((hargs arg harg).solid _ hfeed).symm.trans hblank

theorem callLine_ne_empty (h : UsableName name) (args : List String) : callLine name args ≠ "" := by
  intro he
  have htext := toList_callLine name args
  rw [he] at htext
  cases args with
  | nil =>
    rw [List.map_nil, List.intercalate_singleton] at htext
    exact h.nonempty (String.toList_eq_nil_iff.1 htext.symm)
  | cons arg rest =>
    rw [List.map_cons, List.intercalate_cons_cons, List.append_assoc] at htext
    exact h.nonempty (String.toList_eq_nil_iff.1 (List.append_eq_nil_iff.1 htext.symm).1)

theorem ofLines_singleton {registry : Registry} {reader : Reader} {text keyword : String}
    (ht : tokenize text = some (keyword :: args)) (hget : registry.get? keyword = some reader) :
    Script.ofLines registry [text] =
      match (reader args).run {} with
      | (.ok command, draft) => .ok ⟨#[⟨0, 0, command⟩], draft.plan⟩
      | (.error error, _) => .error (.badCommand 1 keyword error) := by
  have hline : ScriptDraft.addLine registry {} (text, 0) =
      match (reader args).run {} with
      | (.ok command, draft) => .ok { draft, steps := #[⟨0, 0, command⟩] }
      | (.error error, _) => .error (.badCommand 1 keyword error) := by
    simp only [ScriptDraft.addLine, ht, hget]
    rcases (reader args).run {} with ⟨error | command, draft⟩ <;> rfl
  rw [Script.ofLines, List.zipIdx_singleton, List.foldlM_cons, hline]
  rcases (reader args).run {} with ⟨error | command, draft⟩ <;> rfl

theorem Registry.get?_call {registry : Registry} {reader : Reader} (made : Registration)
    (h : registry.get? name = some reader) : (registry.call made).get? name = some reader := by
  unfold Registry.call
  cases hnext : registry.register made.name made.reader with
  | error error => exact h
  | ok next =>
    obtain ⟨-, -, hfresh, rfl⟩ := register_ok_iff.1 hnext
    have hne : name ≠ made.name := by
      rintro rfl
      exact hfresh (contains_iff.1 (Option.isSome_of_eq_some h))
    exact (lookup_insertEntry_of_ne _ _ hne).trans h

theorem Registry.get?_after {registry : Registry} {reader : Reader}
    (h : registry.get? name = some reader) (calls : List Registration) :
    (registry.after calls).get? name = some reader := by
  induction calls generalizing registry with
  | nil => exact h
  | cons made rest ih => exact ih (get?_call made h)

theorem Registry.get?_of_register {registry next : Registry} {reader : Reader}
    (h : registry.register name reader = .ok next) : next.get? name = some reader := by
  obtain ⟨-, -, hfresh, rfl⟩ := register_ok_iff.1 h
  refine lookup_insertEntry_self reader (Option.not_isSome_iff_eq_none.1 fun hsome => hfresh ?_)
  exact contains_iff.1 hsome

theorem tokenize_callLine_iff (h : UsableName name) (hargs : ∀ arg ∈ args, ArgumentText arg) :
    tokenize (callLine name args) = some (name :: args) ↔
      args = [] ∨ name.toList.getLast? ≠ some ',' := by
  cases args with
  | nil =>
    refine iff_of_true ?_ (.inl rfl)
    have hline : callLine name [] = name := by
      rw [← String.toList_inj, toList_callLine, List.map_nil, List.intercalate_singleton]
    rw [hline, tokenize_of_solid h.solid h.nonempty h.noComment]
  | cons arg rest =>
    obtain ⟨harg, hrest⟩ := List.forall_mem_cons.1 hargs
    by_cases hcomma : name.toList.getLast? = some ','
    · refine iff_of_false ?_ (by simp [hcomma])
      rw [tokenize_callLine_of_comma h hcomma harg hrest]
      intro he
      have hname : name ++ arg = name := by simpa using (List.cons.inj (Option.some.inj he)).1
      exact harg.nonempty (by simpa using hname)
    · exact iff_of_true (tokenize_callLine h hcomma hargs) (.inr hcomma)

/-- Whatever is registered later, a registered name keeps its reader. A line of the name and
arguments has just these tokens, unless the name ends in a comma and would take in the first
argument; and then reading the line is what the reader does with the arguments. -/
theorem registered_name_called {registry next : Registry} {reader : Reader}
    (h : registry.register name reader = .ok next) (calls : List Registration)
    (hargs : ∀ arg ∈ args, ArgumentText arg) :
    let later := next.after calls
    let line := " ".intercalate (name :: args)
    later.get? name = some reader ∧
    (tokenize line = some (name :: args) ↔ args = [] ∨ name.toList.getLast? ≠ some ',') ∧
    (args = [] ∨ name.toList.getLast? ≠ some ',' →
      Script.ofText later line = Script.ofLines later [line] ∧
      Script.ofLines later [line] =
        match (reader args).run {} with
        | (.ok command, draft) => .ok ⟨#[⟨0, 0, command⟩], draft.plan⟩
        | (.error error, _) => .error (.badCommand 1 name error)) := by
  intro later line
  obtain ⟨husable, -⟩ := Registry.register_ok_iff.1 h
  have hget : later.get? name = some reader :=
    Registry.get?_after (Registry.get?_of_register h) calls
  have htokens := tokenize_callLine_iff husable hargs
  refine ⟨hget, htokens, fun hcalled => ⟨?_, ofLines_singleton (htokens.2 hcalled) hget⟩⟩
  have hlines : linesOf line = [line] :=
    linesOf_eq_singleton (newline_notMem_callLine husable hargs) (callLine_ne_empty husable args)
  rw [Script.ofText, hlines]

/-- A comma inside a name or an argument does no harm. -/
theorem registered_name_called_comma : ∃ next,
    Registry.builtin.register "Re,set" Wait.read = .ok next ∧
      (next.after [⟨"Re,set", Hit.read⟩]).get? "Re,set" = some Wait.read ∧
      tokenize "Re,set ,5" = some ["Re,set", ",5"] ∧
      Script.ofText (next.after [⟨"Re,set", Hit.read⟩]) "Re,set ,5" =
        .error (.badCommand 1 "Re,set" (.notNatural .waitTime)) := by
  have hregister : ∃ next, Registry.builtin.register "Re,set" Wait.read = .ok next := ⟨_, rfl⟩
  obtain ⟨next, hnext⟩ := hregister
  have harg : ∀ arg ∈ [",5"], ArgumentText arg := by
    simp only [List.forall_mem_singleton]
    exact ⟨by decide, by decide, by decide⟩
  obtain ⟨hget, htokens, hcalled⟩ := registered_name_called hnext [⟨"Re,set", Hit.read⟩] harg
  have hclosed : [",5"] = [] ∨ "Re,set".toList.getLast? ≠ some ',' := by decide
  obtain ⟨htext, hlines⟩ := hcalled hclosed
  exact ⟨next, hnext, hget, htokens.2 hclosed, htext.trans (hlines.trans rfl)⟩

/-- A name that ends in a comma is registered, and found only without arguments. -/
theorem comma_name_not_called :
    ∃ next, Registry.builtin.register "Foo," Wait.read = .ok next ∧ ArgumentText "5" ∧
      " ".intercalate ["Foo,", "5"] = "Foo, 5" ∧ tokenize "Foo, 5" = some ["Foo,5"] ∧
      Script.ofLines next ["Foo, 5"] = .error (.unknownCommand 1 "Foo,5") := by
  refine ⟨_, rfl, ⟨by decide, by decide, by decide⟩, by decide, by decide, rfl⟩

end PadScript
