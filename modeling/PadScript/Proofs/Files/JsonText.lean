import PadScript.Json.Value
import PadScript.Proofs.Script.Values

/-!
# JSON texts and what is read from them

A text is a row of tokens with spaces between them (`Lexed`), and each token is read from its
own text whatever follows it, as long as a number comes to its end there (`Token.ReadFrom`).
So an object with one member on a line is read member by member (`parse?_lines`), and a
string in quotes as it was, whatever its characters are.
-/

namespace PadScript.Json

-- ---------------------------------------------------------------------------
-- Strings
-- ---------------------------------------------------------------------------

namespace Token

theorem hexDigit?_toLower :
    ∀ n < 16, hexDigit? (PadScript.Text.hexDigit n).toLower = some n := by decide

theorem exists_hexCode? {n : Nat} (h : n < 65536) : ∃ a b c d,
    (PadScript.Text.hex 4 n).map Char.toLower = [a, b, c, d] ∧ hexCode? a b c d = some n := by
  have hdigit (m : Nat) : hexDigit? (PadScript.Text.hexDigit (m % 16)).toLower = some (m % 16) :=
    hexDigit?_toLower _ (Nat.mod_lt m (by decide))
  refine ⟨_, _, _, _, rfl, ?_⟩
  simp only [hexCode?, hdigit, Option.pure_def, Option.bind_eq_bind, Option.bind_some,
    Option.some.injEq]
  omega

theorem joinUnits_char (c : Char) (units : List Unit16) :
    joinUnits (.char c :: units) = (joinUnits units).map (c :: ·) := rfl

theorem joinUnits_code {code : Nat} (hhigh : isHighSurrogate code = false)
    (hlow : isLowSurrogate code = false) (units : List Unit16) :
    joinUnits (.code code :: units) = (joinUnits units).map (Char.ofNat code :: ·) := by
  rcases units with _ | ⟨_ | _, units⟩ <;> simp [joinUnits, hhigh, hlow]

theorem readUnits_escape {c escaped : Char} (hc : escape? c = some escaped) (rest : List Char) :
    readUnits ('\\' :: c :: rest) =
      (readUnits rest).map fun r => (.char escaped :: r.1, r.2) := by
  rw [readUnits.eq_def]
  split
  case h_4 heq =>
    cases heq
    rw [hc]
    cases readUnits rest <;> rfl
  case h_3 heq =>
    cases heq
    cases hc
  case h_5 hother heq =>
    cases heq
    exact absurd rfl (hother c rest rfl)
  all_goals rename_i heq; cases heq

theorem readUnits_code {a b c d : Char} {code : Nat} (h : hexCode? a b c d = some code)
    (rest : List Char) : readUnits ('\\' :: 'u' :: a :: b :: c :: d :: rest) =
      (readUnits rest).map fun r => (.code code :: r.1, r.2) := by
  rw [readUnits, h]
  cases readUnits rest <;> rfl

theorem readUnits_plain {c : Char} (hquote : c ≠ '"') (hslash : c ≠ '\\') (hlow : ¬ c < ' ')
    (rest : List Char) :
    readUnits (c :: rest) = (readUnits rest).map fun r => (.char c :: r.1, r.2) := by
  rw [readUnits.eq_def]
  split
  case h_1 heq => cases heq
  case h_2 heq =>
    cases heq
    exact absurd rfl hquote
  case h_5 heq =>
    cases heq
    rw [if_neg hlow]
    cases readUnits rest <;> rfl
  all_goals
    rename_i heq
    cases heq
    exact absurd rfl hslash

theorem readUnits_quoteChar (c : Char) : ∃ unit,
    (∀ rest, readUnits (quoteChar c ++ rest) =
      (readUnits rest).map fun r => (unit :: r.1, r.2)) ∧
    ∀ units, joinUnits (unit :: units) = (joinUnits units).map (c :: ·) := by
  unfold quoteChar
  split
  case h_8 =>
    split
    case isTrue hlow =>
      have hlow : c.toNat < 32 := hlow
      obtain ⟨a, b, d, e, hhex, hcode⟩ := exists_hexCode? (show c.toNat < 65536 by omega)
      refine ⟨.code c.toNat, fun rest => ?_, fun units => ?_⟩
      · rw [hhex]
        exact readUnits_code hcode rest
      · have hhigh : isHighSurrogate c.toNat = false := by
          simp only [isHighSurrogate, Bool.and_eq_false_iff, decide_eq_false_iff_not]
          omega
        have hlow : isLowSurrogate c.toNat = false := by
          simp only [isLowSurrogate, Bool.and_eq_false_iff, decide_eq_false_iff_not]
          omega
        rw [joinUnits_code hhigh hlow, Char.ofNat_toNat]
    case isFalse hlow =>
      exact ⟨.char c, fun rest => readUnits_plain ‹_› ‹_› hlow rest, joinUnits_char c⟩
  all_goals exact ⟨_, fun rest => readUnits_escape rfl rest, joinUnits_char _⟩

theorem readUnits_quoted (chars rest : List Char) : ∃ units,
    readUnits (chars.flatMap quoteChar ++ '"' :: rest) = some (units, rest) ∧
      joinUnits units = some chars := by
  induction chars with
  | nil => exact ⟨[], rfl, rfl⟩
  | cons c chars ih =>
    obtain ⟨units, hread, hjoin⟩ := ih
    obtain ⟨unit, hunit, hchar⟩ := readUnits_quoteChar c
    refine ⟨unit :: units, ?_, ?_⟩
    · rw [List.flatMap_cons, List.append_assoc, hunit, hread]
      rfl
    · rw [hchar, hjoin]
      rfl

-- ---------------------------------------------------------------------------
-- Numbers
-- ---------------------------------------------------------------------------

/-- What may follow a number: nothing that would belong to it. -/
def Apart (rest : List Char) : Prop :=
  ∀ c more, rest = c :: more → c.isDigit = false ∧ c ≠ '.' ∧ c ≠ 'e' ∧ c ≠ 'E'

theorem apart_nil : Apart [] := by
  intro c more h
  cases h

theorem apart_cons {c : Char} (h : c.isDigit = false ∧ c ≠ '.' ∧ c ≠ 'e' ∧ c ≠ 'E')
    (more : List Char) : Apart (c :: more) := by
  rintro _ _ ⟨⟩
  exact h

theorem exists_digit_toDigits (n : Nat) :
    ∃ c more, Nat.toDigits 10 n = c :: more ∧ c.isDigit = true := by
  obtain ⟨c, more, hmore⟩ := List.exists_cons_of_ne_nil (Nat.toDigits_ne_nil (n := n) (b := 10))
  refine ⟨c, more, hmore, (PadScript.Text.digits_toDigits n).isDigit ?_⟩
  rw [hmore]
  exact List.mem_cons_self

theorem exists_head_toDigits {n : Nat} (h : 0 < n) :
    ∃ c more, Nat.toDigits 10 n = c :: more ∧ c ≠ '0' := by
  induction n using Nat.strongRecOn with
  | ind n ih =>
    rcases Nat.lt_or_ge n 10 with hlt | hge
    · have hdigit : ∀ n < 10, 0 < n → Nat.digitChar n ≠ '0' := by decide
      exact ⟨_, [], Nat.toDigits_of_lt_base hlt, hdigit n hlt h⟩
    · obtain ⟨c, more, hmore, hc⟩ := ih (n / 10) (by omega) (by omega)
      refine ⟨c, more ++ [(n % 10).digitChar], ?_, hc⟩
      rw [Nat.toDigits_of_base_le (by decide) hge, hmore, List.cons_append]

theorem digits?_append {digits rest : List Char} (hne : digits ≠ [])
    (hall : ∀ c ∈ digits, c.isDigit = true) (hr : Apart rest) :
    digits? (digits ++ rest) = some (digits, rest) := by
  have htake : (digits ++ rest).takeWhile Char.isDigit = digits := by
    rw [List.takeWhile_append_of_pos hall]
    cases rest with
    | nil => exact List.append_nil digits
    | cons c more => simp [(hr c more rfl).1]
  have hdrop : (digits ++ rest).dropWhile Char.isDigit = rest := by
    rw [List.dropWhile_append_of_pos hall]
    cases rest with
    | nil => rfl
    | cons c more => simp [(hr c more rfl).1]
  rw [digits?, htake, hdrop, if_neg (by simpa using hne)]

theorem readWhole?_toDigits (n : Nat) {rest : List Char} (hr : Apart rest) :
    readWhole? (Nat.toDigits 10 n ++ rest) = some (Nat.toDigits 10 n, rest) := by
  rcases Nat.eq_zero_or_pos n with rfl | hn
  · rfl
  · obtain ⟨c, more, hmore, hc⟩ := exists_head_toDigits hn
    have hall (c : Char) (hc : c ∈ Nat.toDigits 10 n) : c.isDigit = true :=
      (PadScript.Text.digits_toDigits n).isDigit hc
    have hdigits := digits?_append Nat.toDigits_ne_nil hall hr
    rw [hmore] at hdigits ⊢
    rw [List.cons_append] at hdigits ⊢
    rw [readWhole?.eq_def]
    split
    · rename_i heq
      cases heq
      exact absurd rfl hc
    · exact hdigits

theorem readFraction?_apart {rest : List Char} (hr : Apart rest) :
    readFraction? rest = some ([], rest) := by
  cases rest with
  | nil => rfl
  | cons c more =>
    rw [readFraction?.eq_def]
    split
    · rename_i heq
      cases heq
      exact absurd rfl (hr '.' more rfl).2.1
    · rfl

theorem readExponent?_apart {rest : List Char} (hr : Apart rest) :
    readExponent? rest = some ([], rest) := by
  cases rest with
  | nil => rfl
  | cons c more =>
    obtain ⟨-, -, hlower, hupper⟩ := hr c more rfl
    simp [readExponent?, hlower, hupper]

theorem toList_toString_ofNat (n : Nat) :
    (toString (Int.ofNat n)).toList = Nat.toDigits 10 n := Nat.toList_repr

theorem toList_toString_negSucc (n : Nat) :
    (toString (Int.negSucc n)).toList = '-' :: Nat.toDigits 10 (n + 1) := by
  change ("-" ++ (n + 1).repr).toList = _
  rw [String.toList_append, Nat.toList_repr]
  rfl

theorem decimal_toString (i : Int) : PadScript.Text.Decimal i (toString i).toList := by
  cases i with
  | ofNat n =>
    rw [toList_toString_ofNat]
    exact .bare (PadScript.Text.digits_toDigits n)
  | negSucc n =>
    rw [toList_toString_negSucc]
    exact .minus (PadScript.Text.digits_toDigits (n + 1))

theorem exists_head_toString (i : Int) :
    ∃ c more, (toString i).toList = c :: more ∧ (c.isDigit = true ∨ c = '-') := by
  cases i with
  | ofNat n =>
    obtain ⟨c, more, hmore, hc⟩ := exists_digit_toDigits n
    exact ⟨c, more, (toList_toString_ofNat n).trans hmore, .inl hc⟩
  | negSucc n => exact ⟨_, _, toList_toString_negSucc n, .inr rfl⟩

theorem readNumber?_toString (i : Int) {rest : List Char} (hr : Apart rest) :
    readNumber? ((toString i).toList ++ rest) = some ((toString i).toList, rest) := by
  cases i with
  | ofNat n =>
    rw [toList_toString_ofNat, readNumber?]
    · simp [readWhole?_toDigits n hr, readFraction?_apart hr, readExponent?_apart hr]
    · intro more hmore
      obtain ⟨c, digits, hdigits, hc⟩ := exists_digit_toDigits n
      rw [hdigits] at hmore
      cases hmore
      cases hc
  | negSucc n =>
    rw [toList_toString_negSucc, List.cons_append, readNumber?]
    simp [readWhole?_toDigits (n + 1) hr, readFraction?_apart hr, readExponent?_apart hr]

-- ---------------------------------------------------------------------------
-- Tokens
-- ---------------------------------------------------------------------------

structure ReadFrom (token : Token) (text : List Char) : Prop where
  solid : ∃ c more, text = c :: more ∧ isSpace c = false
  next : ∀ rest, Apart rest → next? (text ++ rest) = some (token, rest)

theorem readFrom_openBrace : openBrace.ReadFrom ['{'] := ⟨⟨_, _, rfl, rfl⟩, fun _ _ => rfl⟩

theorem readFrom_closeBrace : closeBrace.ReadFrom ['}'] := ⟨⟨_, _, rfl, rfl⟩, fun _ _ => rfl⟩

theorem readFrom_comma : comma.ReadFrom [','] := ⟨⟨_, _, rfl, rfl⟩, fun _ _ => rfl⟩

theorem readFrom_colon : colon.ReadFrom [':'] := ⟨⟨_, _, rfl, rfl⟩, fun _ _ => rfl⟩

theorem readFrom_null : null.ReadFrom "null".toList := ⟨⟨_, _, rfl, rfl⟩, fun _ _ => rfl⟩

theorem readFrom_bool (b : Bool) : (bool b).ReadFrom (toString b).toList := by
  cases b <;> exact ⟨⟨_, _, rfl, rfl⟩, fun _ _ => rfl⟩

theorem readFrom_string (text : String) :
    (string (some text.toList)).ReadFrom (quote text).toList := by
  rw [quote, String.toList_ofList]
  refine ⟨⟨_, _, rfl, rfl⟩, fun rest _ => ?_⟩
  obtain ⟨units, hread, hjoin⟩ := readUnits_quoted text.toList rest
  simp [next?, hread, hjoin]

theorem readFrom_number (i : Int) : (number (toString i).toList).ReadFrom (toString i).toList := by
  obtain ⟨c, more, hmore, hc⟩ := exists_head_toString i
  have hspace : isSpace c = false := by
    rcases hc with hc | rfl
    · simp only [isSpace, Bool.or_eq_false_iff, beq_eq_false_iff_ne]
      refine ⟨⟨⟨?_, ?_⟩, ?_⟩, ?_⟩ <;>
      · rintro rfl
        cases hc
    · rfl
  refine ⟨⟨c, more, hmore, hspace⟩, fun rest hr => ?_⟩
  have hnumber := readNumber?_toString i hr
  rw [hmore, List.cons_append] at hnumber ⊢
  rw [next?.eq_def]
  split
  case h_11 =>
    rw [hnumber]
    rfl
  all_goals
    rename_i heq
    obtain ⟨rfl, -⟩ := List.cons.inj heq
    simp at hc

-- ---------------------------------------------------------------------------
-- Rows of tokens
-- ---------------------------------------------------------------------------

/-- The text is a row of these tokens with any spaces before, between and after them. -/
inductive Lexed : List Char → List Token → Prop
  | blank {spaces} (hs : ∀ c ∈ spaces, isSpace c = true) : Lexed spaces []
  | token {spaces text rest token tokens} (hs : ∀ c ∈ spaces, isSpace c = true)
      (ht : token.ReadFrom text) (hr : Apart rest) (h : Lexed rest tokens) :
      Lexed (spaces ++ (text ++ rest)) (token :: tokens)

theorem Lexed.cons {text rest : List Char} {token : Token} {tokens : List Token}
    (ht : token.ReadFrom text) (hr : Apart rest) (h : Lexed rest tokens) :
    Lexed (text ++ rest) (token :: tokens) := by
  have hnone : Lexed ([] ++ (text ++ rest)) (token :: tokens) := .token (by simp) ht hr h
  exact hnone

theorem lexFrom_of_lexed {fuel : Nat} {text : List Char} {tokens : List Token}
    (h : Lexed text tokens) (hfuel : text.length < fuel) : lexFrom fuel text = some tokens := by
  induction h generalizing fuel with
  | @blank spaces hs =>
    obtain ⟨fuel, rfl⟩ := Nat.exists_eq_succ_of_ne_zero (Nat.ne_of_gt (Nat.zero_lt_of_lt hfuel))
    have hdrop : spaces.dropWhile isSpace = [] := by
      rw [← List.append_nil spaces, List.dropWhile_append_of_pos hs, List.dropWhile_nil]
    rw [lexFrom, hdrop]
  | @token spaces text rest token tokens hs ht hr _ ih =>
    obtain ⟨fuel, rfl⟩ := Nat.exists_eq_succ_of_ne_zero (Nat.ne_of_gt (Nat.zero_lt_of_lt hfuel))
    obtain ⟨c, more, rfl, hc⟩ := ht.solid
    have hdrop : (spaces ++ (c :: more ++ rest)).dropWhile isSpace = c :: (more ++ rest) := by
      rw [List.dropWhile_append_of_pos hs, List.cons_append,
        List.dropWhile_cons_of_neg (by simp [hc])]
    have hnext : next? (c :: (more ++ rest)) = some (token, rest) := ht.next rest hr
    have hrest : lexFrom fuel rest = some tokens := by
      apply ih
      simp at hfuel
      omega
    rw [lexFrom, hdrop]
    simp [hnext, hrest]

theorem lex?_of_lexed {text : List Char} {tokens : List Token} (h : Lexed text tokens) :
    lex? text = some tokens := lexFrom_of_lexed h (Nat.lt_succ_self _)

end Token

-- ---------------------------------------------------------------------------
-- Objects with a member on each line
-- ---------------------------------------------------------------------------

structure Member where
  key : String
  text : String
  token : Token
  value : Value
  read : token.ReadFrom text.toList
  whole : ∀ stack, Expecting.beginValue stack token = some (.afterValue stack value)

namespace Member

def line (member : Member) : String := "\n  " ++ quote member.key ++ ": " ++ member.text

def tokens (member : Member) : List Token :=
  [.string (some member.key.toList), .colon, member.token]

def entry (member : Member) : Text × Value := (some member.key.toList, member.value)

theorem lexed_line (member : Member) {rest : List Char} {tokens : List Token}
    (hr : Token.Apart rest) (h : Token.Lexed rest tokens) :
    Token.Lexed (member.line.toList ++ rest) (member.tokens ++ tokens) := by
  have hline : member.line.toList ++ rest = ['\n', ' ', ' '] ++ ((quote member.key).toList ++
      ([':'] ++ ([' '] ++ (member.text.toList ++ rest)))) := by
    simp [line]
  have hvalue : Token.Lexed ([' '] ++ (member.text.toList ++ rest)) (member.token :: tokens) :=
    .token (by simp [Token.isSpace]) member.read hr h
  have hcolon := hvalue.cons Token.readFrom_colon (Token.apart_cons (by decide) _)
  rw [hline]
  exact .token (by simp [Token.isSpace]) (Token.readFrom_string member.key)
    (Token.apart_cons (by decide) _) hcolon

theorem apart_lines {members : List Member} (hne : members ≠ []) (rest : List Char) :
    Token.Apart ([','].intercalate (members.map fun member => member.line.toList) ++ rest) := by
  obtain ⟨member, members, rfl⟩ := List.exists_cons_of_ne_nil hne
  have hline : member.line.toList = '\n' :: ' ' :: ' ' :: ((quote member.key).toList ++
      ':' :: ' ' :: member.text.toList) := by
    simp [line]
  rw [List.map_cons, hline]
  cases members with
  | nil => exact Token.apart_cons (by decide) _
  | cons => exact Token.apart_cons (by decide) _

theorem lexed_lines {members : List Member} (hne : members ≠ []) {rest : List Char}
    {tokens : List Token} (hr : Token.Apart rest) (h : Token.Lexed rest tokens) :
    Token.Lexed ([','].intercalate (members.map fun member => member.line.toList) ++ rest)
      ([.comma].intercalate (members.map Member.tokens) ++ tokens) := by
  induction members with
  | nil => exact absurd rfl hne
  | cons member members ih =>
    cases members with
    | nil => simpa using member.lexed_line hr h
    | cons second members =>
      have hlines := ih (List.cons_ne_nil _ _)
      have hcomma := hlines.cons Token.readFrom_comma (apart_lines (List.cons_ne_nil _ _) rest)
      simpa [List.intercalate_cons_cons] using
        member.lexed_line (Token.apart_cons (by decide) _) hcomma

theorem run_tokens (member : Member) (stack : List Frame) (done : List (Text × Value)) :
    member.tokens.foldlM Expecting.step (.key stack done) =
      some (.afterValue (.object done (some member.key.toList) :: stack) member.value) := by
  simp [tokens, Expecting.step, member.whole]

/-- The members of an object up to its end, after those that are done. -/
theorem run_members {members : List Member} (hne : members ≠ []) (stack : List Frame)
    (done : List (Text × Value)) :
    ([Token.comma].intercalate (members.map Member.tokens) ++ [Token.closeBrace]).foldlM
        Expecting.step (.key stack done) =
      some (.afterValue stack (.object (done.reverse ++ members.map entry))) := by
  induction members generalizing done with
  | nil => exact absurd rfl hne
  | cons member members ih =>
    cases members with
    | nil => simp [member.run_tokens, Expecting.step, entry]
    | cons second members =>
      have hcomma : Expecting.step (.afterValue (.object done (some member.key.toList) :: stack)
          member.value) .comma = some (.key stack (member.entry :: done)) := rfl
      have hrest := ih (List.cons_ne_nil _ _) (member.entry :: done)
      rw [List.map_cons] at hrest
      rw [List.map_cons, List.map_cons, List.intercalate_cons_cons, List.append_assoc,
        List.append_assoc, List.foldlM_append, member.run_tokens, Option.bind_eq_bind,
        Option.bind_some, List.singleton_append, List.foldlM_cons, hcomma, Option.bind_eq_bind,
        Option.bind_some, hrest, List.reverse_cons, List.append_assoc]
      rfl

end Member

theorem parse?_lines {members : List Member} (hne : members ≠ []) :
    parse? ("\x7b" ++ ",".intercalate (members.map Member.line) ++ "\n\x7d") =
      some (.object (members.map Member.entry)) := by
  have hend : Token.Lexed (['\n'] ++ (['}'] ++ [])) [.closeBrace] :=
    .token (by simp [Token.isSpace]) Token.readFrom_closeBrace Token.apart_nil (.blank (by simp))
  have hlines := Member.lexed_lines hne (Token.apart_cons (by decide) ['}']) hend
  have hlexed := hlines.cons Token.readFrom_openBrace (Member.apart_lines hne _)
  have htext : ("\x7b" ++ ",".intercalate (members.map Member.line) ++ "\n\x7d").toList =
      ['{'] ++ ([','].intercalate (members.map fun member => member.line.toList) ++
        ['\n', '}']) := by
    simp [String.toList_intercalate, Function.comp_def]
  -- The first member is read in the same way as those after a comma.
  have hfirst : (Token.openBrace :: ([Token.comma].intercalate (members.map Member.tokens) ++
      [Token.closeBrace])).foldlM Expecting.step (.value []) =
        ([Token.comma].intercalate (members.map Member.tokens) ++ [Token.closeBrace]).foldlM
          Expecting.step (.key [] []) := by
    obtain ⟨member, members, rfl⟩ := List.exists_cons_of_ne_nil hne
    cases members <;> rfl
  rw [parse?, htext, Token.lex?_of_lexed hlexed, Option.bind_eq_bind, Option.bind_some, hfirst,
    Member.run_members hne]
  rfl

end PadScript.Json
