import Mathlib.Algebra.Ring.Parity
import PadScript.Proofs.Screen.Keys

/-!
# The key loop of the screen

The loop draws and handles one event after the other until it quits. Which requests its keys stand
for is said without it (`Console.asked`). What holds of it under every list of events, whatever the
session is at each of them, is `Console.KeySafe` (`key_loop_safe`): no key goes through the dialog,
the dialog comes up only in front of a play, and the first request to quit is the last request,
saves the settings and ends the loop. What is logged and drawn on the way decides nothing
(`loop_effects`).
-/

namespace PadScript

namespace Console

def Input.presses (input : Input) (p : Key → Bool) : Bool := input.event.key?.any p

namespace Looped

def requests (looped : Looped) : List Request := looped.effects.filterMap App.Effect.request?

def saved (looped : Looped) : List Settings := looped.effects.filterMap App.Effect.saved?

def quitting (looped : Looped) : Bool := looped.console.app.quitting

def dialog (looped : Looped) : Option Screen.Dialog := looped.console.app.dialog

def settings (looped : Looped) : Settings := looped.console.app.settings

end Looped

/-- The requests that the keys stand for, as long as the loop goes on. -/
def asked (console : Console) : List Input → List Request
  | [] => []
  | input :: rest =>
    if console.app.quitting then []
    else (console.app.request? input.session input.event).toList ++
      (console.handle input).1.asked rest

variable {console : Console}

theorem handles (h : console.app.quitting = false) (input : Input) :
    (console.app.receive input.records).Handles input.session input.event
      (console.handle input).1.app (console.handle input).2 :=
  have hreceived : (console.app.receive input.records).quitting = false := h
  App.handles_handle hreceived input.session input.event

theorem handle_sends (h : console.app.quitting = false) (input : Input) :
    let asked := (console.app.request? input.session input.event).toList
    let next := (console.handle input).1.app
    (console.handle input).2.filterMap App.Effect.request? =
        asked ++ (if next.quitting then [.quit] else []) ∧
      (console.handle input).2.filterMap App.Effect.saved? =
        (if next.quitting then [next.settings] else []) ∧
      next.settings = asked.foldl App.remember console.app.settings :=
  have hh := handles h input
  ⟨(hh.sends h).1, (hh.sends h).2, hh.settings⟩

theorem loop_of_quitting (h : console.app.quitting = true) (inputs : List Input) :
    console.loop inputs = ⟨console, [], inputs⟩ := by
  cases inputs with
  | nil => rfl
  | cons input rest => simp [loop, h]

theorem loop_cons (h : console.app.quitting = false) (input : Input) (rest : List Input) :
    console.loop (input :: rest) =
      let looped := (console.handle input).1.loop rest
      { looped with effects := (console.handle input).2 ++ looped.effects } := by
  simp [loop, h]

theorem asked_of_quitting (h : console.app.quitting = true) (inputs : List Input) :
    console.asked inputs = [] := by
  cases inputs with
  | nil => rfl
  | cons input rest => simp [asked, h]

theorem asked_cons (h : console.app.quitting = false) (input : Input) (rest : List Input) :
    console.asked (input :: rest) =
      (console.app.request? input.session input.event).toList ++
        (console.handle input).1.asked rest := by
  simp [asked, h]

/-- The effects are those of the events alone, whatever is logged and drawn between them. -/
theorem loop_effects (console : Console) (inputs : List Input) :
    (console.loop inputs).effects =
      (console.app.handleAll (inputs.map fun input => (input.session, input.event))).2 := by
  induction inputs generalizing console with
  | nil => rfl
  | cons input rest ih =>
    cases hq : console.app.quitting with
    | true => rw [loop_of_quitting hq, App.effects_handleAll_of_quitting hq]
    | false =>
      have happ : (console.handle input).1.app =
          (console.app.handle input.session input.event).1.receive input.records :=
        congrArg Prod.fst (App.receive_handle input.records)
      have heffects : (console.handle input).2 =
          (console.app.handle input.session input.event).2 :=
        congrArg Prod.snd (App.receive_handle input.records)
      rw [loop_cons hq, List.map_cons, App.effects_handleAll_cons, ← heffects,
        ← App.effects_handleAll_receive _ input.records, ← happ, ← ih]

theorem unread_of_not_quitting {inputs : List Input} (h : (console.loop inputs).quitting = false) :
    (console.loop inputs).unread = [] := by
  induction inputs generalizing console with
  | nil => rfl
  | cons input rest ih =>
    cases hq : console.app.quitting with
    | true =>
      rw [loop_of_quitting hq] at h
      cases h.symm.trans hq
    | false =>
      rw [loop_cons hq] at h ⊢
      exact ih h

/-- A loop over more events goes on where the loop over the first of them stands, unless
that one has returned. -/
theorem loop_append (console : Console) (first rest : List Input) :
    console.loop (first ++ rest) =
      if (console.loop first).quitting then
        { console.loop first with unread := (console.loop first).unread ++ rest }
      else
        { (console.loop first).console.loop rest with
          effects := (console.loop first).effects ++
            ((console.loop first).console.loop rest).effects } := by
  induction first generalizing console with
  | nil =>
    cases hq : console.app.quitting with
    | true => simp [loop, Looped.quitting, hq, loop_of_quitting hq]
    | false => simp [loop, Looped.quitting, hq]
  | cons input first ih =>
    cases hq : console.app.quitting with
    | true => simp [loop_of_quitting hq, Looped.quitting, hq]
    | false =>
      rw [List.cons_append, loop_cons hq, loop_cons hq, ih]
      cases hl : ((console.handle input).1.loop first).quitting with
      | true =>
        simp only [Looped.quitting] at hl ⊢
        simp [hl]
      | false =>
        simp only [Looped.quitting] at hl ⊢
        simp [hl, List.append_assoc]

theorem loop_concat {before : List Input} (h : (console.loop before).quitting = false)
    (input : Input) :
    console.loop (before ++ [input]) =
      ⟨((console.loop before).console.handle input).1,
        (console.loop before).effects ++ ((console.loop before).console.handle input).2, []⟩ := by
  rw [loop_append, h, if_neg Bool.false_ne_true, loop_cons h]
  simp [loop]

theorem loop_sends (h : console.app.quitting = false) (inputs : List Input) :
    (console.loop inputs).requests =
        console.asked inputs ++ (if (console.loop inputs).quitting then [.quit] else []) ∧
      (console.loop inputs).saved =
        (if (console.loop inputs).quitting then [(console.loop inputs).settings] else []) ∧
      (console.loop inputs).settings =
        (console.asked inputs).foldl App.remember console.app.settings := by
  induction inputs generalizing console with
  | nil => simp [loop, asked, Looped.requests, Looped.saved, Looped.settings, Looped.quitting, h]
  | cons input rest ih =>
    obtain ⟨hsent, hsaved, hsettings⟩ := handle_sends h input
    rw [asked_cons h, loop_cons h]
    simp only [Looped.requests, Looped.saved, Looped.settings, Looped.quitting,
      List.filterMap_append, List.foldl_append] at ih ⊢
    cases hq : (console.handle input).1.app.quitting with
    | true =>
      rw [loop_of_quitting hq, asked_of_quitting hq]
      rw [hq] at hsent hsaved
      exact ⟨by simpa [hq] using hsent, by simpa [hq] using hsaved, by simpa using hsettings⟩
    | false =>
      rw [hq] at hsent hsaved
      obtain ⟨ihsent, ihsaved, ihsettings⟩ := ih hq
      rw [hsent, hsaved, ihsent, ihsaved, ihsettings, hsettings]
      refine ⟨?_, by simp, rfl⟩
      rw [if_neg Bool.false_ne_true, List.append_nil, List.append_assoc]
      rfl

theorem asked_append (console : Console) (first rest : List Input) :
    console.asked (first ++ rest) =
      console.asked first ++ (console.loop first).console.asked rest := by
  induction first generalizing console with
  | nil => rfl
  | cons input first ih =>
    cases hq : console.app.quitting with
    | true => simp [asked_of_quitting hq, loop_of_quitting hq]
    | false => rw [List.cons_append, asked_cons hq, asked_cons hq, loop_cons hq, ih,
        List.append_assoc]

theorem quit_notMem_asked (console : Console) (inputs : List Input) :
    Request.quit ∉ console.asked inputs := by
  induction inputs generalizing console with
  | nil => exact List.not_mem_nil
  | cons input rest ih =>
    unfold asked
    split
    · exact List.not_mem_nil
    · rw [List.mem_append, Option.mem_toList]
      rintro (hquit | hquit)
      · exact App.request?_ne_quit hquit
      · exact ih _ hquit

theorem handle_listening (h : console.app.quitting = false) (hd : console.app.dialog = none)
    (input : Input) :
    (console.handle input).1.app.dialog =
        (if input.presses Key.quits && input.session.isRunning then
          some { message := App.question } else none) ∧
      (console.handle input).1.app.quitting =
        (input.presses Key.quits && !input.session.isRunning) :=
  (handles h input).of_listening h hd

theorem handle_open (h : console.app.quitting = false) {dialog : Screen.Dialog}
    (hd : console.app.dialog = some dialog) (input : Input) :
    (console.handle input).1.app.dialog =
        (if input.presses Key.closes then none else
          some { dialog with yes := xor dialog.yes (input.presses Key.turns) }) ∧
      (console.handle input).1.app.quitting = input.presses (Key.agrees dialog.yes) :=
  (handles h input).of_open h hd

theorem Input.agrees_of_not_closes {input : Input} {yes : Bool}
    (h : input.presses Key.closes = false) : input.presses (Key.agrees yes) = false := by
  unfold presses at h ⊢
  cases hk : input.event.key? with
  | none => rfl
  | some key =>
    rw [hk] at h
    exact Key.agrees_of_not_closes h

def turned (inputs : List Input) : Nat := inputs.countP (·.presses Key.turns)

theorem odd_turned_cons (input : Input) (rest : List Input) :
    decide (Odd (turned (input :: rest))) =
      xor (input.presses Key.turns) (decide (Odd (turned rest))) := by
  unfold turned
  rw [List.countP_cons]
  cases input.presses Key.turns with
  | true => simp only [if_true, Nat.odd_add_one, decide_not, Bool.true_xor]
  | false => simp

/-- While no key closes the dialog it stays open, with the selection turned by each key that
turns it, and no request is sent. -/
theorem loop_open (h : console.app.quitting = false) {dialog : Screen.Dialog}
    (hd : console.app.dialog = some dialog) {during : List Input}
    (hk : ∀ input ∈ during, input.presses Key.closes = false) :
    (console.loop during).dialog =
        some { dialog with yes := xor dialog.yes (decide (Odd (turned during))) } ∧
      (console.loop during).quitting = false ∧ console.asked during = [] := by
  induction during generalizing console dialog with
  | nil => exact ⟨by simpa [turned, loop, Looped.dialog] using hd, h, rfl⟩
  | cons input rest ih =>
    rw [List.forall_mem_cons] at hk
    obtain ⟨hdialog, hquitting⟩ := handle_open h hd input
    rw [hk.1, if_neg Bool.false_ne_true] at hdialog
    rw [Input.agrees_of_not_closes hk.1] at hquitting
    obtain ⟨ihdialog, ihquitting, ihasked⟩ := ih hquitting hdialog hk.2
    rw [loop_cons h, asked_cons h, App.request?_of_open hd, ihasked, odd_turned_cons,
      ← Bool.xor_assoc]
    exact ⟨ihdialog, ihquitting, rfl⟩

/-- What holds of the loop over all events and sessions. -/
structure KeySafe (console : Console) : Prop where
  /-- One request for each key that stands for one, then the one to quit when it quits. -/
  sent (inputs : List Input) : (console.loop inputs).requests =
    console.asked inputs ++ (if (console.loop inputs).quitting then [.quit] else [])
  once (inputs : List Input) : Request.quit ∉ console.asked inputs
  saved (inputs : List Input) : (console.loop inputs).saved =
    (if (console.loop inputs).quitting then [(console.loop inputs).settings] else [])
  settings (inputs : List Input) : (console.loop inputs).settings =
    (console.asked inputs).foldl App.remember console.app.settings
  /-- No event is read after the one that makes it quit. -/
  returns (before : List Input) (input : Input) (rest : List Input)
    (going : (console.loop before).quitting = false)
    (quits : (console.loop (before ++ [input])).quitting = true) :
    console.loop (before ++ input :: rest) =
      { console.loop (before ++ [input]) with unread := rest }
  reads (inputs : List Input) (going : (console.loop inputs).quitting = false) :
    (console.loop inputs).unread = []
  listens (before : List Input) (input : Input)
    (going : (console.loop before).quitting = false)
    (listening : (console.loop before).dialog = none) :
    (console.loop (before ++ [input])).dialog =
        (if input.presses Key.quits && input.session.isRunning then
          some { message := App.question } else none) ∧
      (console.loop (before ++ [input])).quitting =
        (input.presses Key.quits && !input.session.isRunning)
  /-- From when the dialog comes up until a key closes it. -/
  waits (before : List Input) (opening : Input) (during : List Input)
    (listening : (console.loop before).dialog = none)
    (opens : (console.loop (before ++ [opening])).dialog ≠ none)
    (open' : ∀ input ∈ during, input.presses Key.closes = false) :
    (console.loop (before ++ opening :: during)).dialog =
        some { message := App.question, yes := decide (Odd (turned during)) } ∧
      (console.loop (before ++ opening :: during)).quitting = false ∧
      (console.loop (before ++ opening :: during)).requests = (console.loop before).requests
  /-- The first key that closes it also decides. -/
  answers (before : List Input) (opening : Input) (during : List Input) (closing : Input)
    (key : Key) (listening : (console.loop before).dialog = none)
    (opens : (console.loop (before ++ [opening])).dialog ≠ none)
    (open' : ∀ input ∈ during, input.presses Key.closes = false)
    (pressed : closing.event.key? = some key) (closes : key.closes = true) :
    (console.loop (before ++ opening :: during ++ [closing])).dialog = none ∧
      ((console.loop (before ++ opening :: during ++ [closing])).quitting = true ↔
        key = .char 'y' ∨ key = .char 'Y' ∨ key = .enter ∧ Odd (turned during))

theorem loop_listening {before : List Input} (input : Input)
    (going : (console.loop before).quitting = false)
    (listening : (console.loop before).dialog = none) :
    (console.loop (before ++ [input])).dialog =
        (if input.presses Key.quits && input.session.isRunning then
          some { message := App.question } else none) ∧
      (console.loop (before ++ [input])).quitting =
        (input.presses Key.quits && !input.session.isRunning) := by
  rw [loop_concat going]
  exact handle_listening going listening input

theorem going_of_opens {before : List Input} {opening : Input}
    (listening : (console.loop before).dialog = none)
    (opens : (console.loop (before ++ [opening])).dialog ≠ none) :
    (console.loop before).quitting = false ∧
      (console.loop (before ++ [opening])).dialog = some { message := App.question } ∧
      (console.loop (before ++ [opening])).quitting = false ∧
      console.asked (before ++ [opening]) = console.asked before := by
  have going : (console.loop before).quitting = false := by
    refine Bool.eq_false_iff.2 fun hquitting => opens ?_
    rw [loop_append, if_pos hquitting]
    exact listening
  obtain ⟨hdialog, hquitting⟩ := loop_listening opening going listening
  cases hopens : opening.presses Key.quits && opening.session.isRunning with
  | false =>
    rw [hopens, if_neg Bool.false_ne_true] at hdialog
    exact absurd hdialog opens
  | true =>
    rw [hopens, if_pos rfl] at hdialog
    obtain ⟨hq, hr⟩ := Bool.and_eq_true_iff.1 hopens
    rw [hq, hr] at hquitting
    refine ⟨going, hdialog, hquitting, ?_⟩
    obtain ⟨key, hk, hkey⟩ := (Option.any_eq_true _ _).1 hq
    rw [asked_append, asked_cons going, App.request?_of_quits hk hkey]
    exact List.append_nil _

theorem loop_asking {before : List Input} {opening : Input} {during : List Input}
    (listening : (console.loop before).dialog = none)
    (opens : (console.loop (before ++ [opening])).dialog ≠ none)
    (open' : ∀ input ∈ during, input.presses Key.closes = false) :
    (console.loop (before ++ opening :: during)).dialog =
        some { message := App.question, yes := decide (Odd (turned during)) } ∧
      (console.loop (before ++ opening :: during)).quitting = false ∧
      (console.loop before).quitting = false ∧
      console.asked (before ++ opening :: during) = console.asked before := by
  obtain ⟨going, hdialog, hquitting, hopening⟩ := going_of_opens listening opens
  obtain ⟨hduring, hgoing, hasked⟩ := loop_open hquitting hdialog open'
  rw [List.append_cons, loop_append, hquitting, if_neg Bool.false_ne_true, asked_append, hasked,
    hopening, List.append_nil]
  exact ⟨by simpa [Looped.dialog] using hduring, hgoing, going, rfl⟩

theorem requests_of_going (h : console.app.quitting = false) {inputs : List Input}
    (going : (console.loop inputs).quitting = false) :
    (console.loop inputs).requests = console.asked inputs := by
  rw [(loop_sends h inputs).1, going, if_neg Bool.false_ne_true, List.append_nil]

/-- Whatever the keys and the sessions, nothing but what the keys stand for is sent, and
nothing of it through the dialog. -/
theorem key_loop_safe (console : Console) (h : console.app.quitting = false) :
    console.KeySafe where
  sent inputs := (loop_sends h inputs).1
  once := console.quit_notMem_asked
  saved inputs := (loop_sends h inputs).2.1
  settings inputs := (loop_sends h inputs).2.2
  returns before input rest going quits := by
    rw [List.append_cons, loop_append _ _ rest, if_pos quits, loop_concat going]
    rfl
  reads inputs := unread_of_not_quitting
  listens before input := loop_listening input
  waits before opening during listening opens open' := by
    obtain ⟨hdialog, hquitting, going, hasked⟩ := loop_asking listening opens open'
    refine ⟨hdialog, hquitting, ?_⟩
    rw [requests_of_going h hquitting, requests_of_going h going, hasked]
  answers before opening during closing key listening opens open' pressed closes := by
    obtain ⟨hdialog, hquitting, -⟩ := loop_asking listening opens open'
    have hpresses (p : Key → Bool) : closing.presses p = p key := by
      simp [Input.presses, pressed]
    obtain ⟨hclosed, hanswer⟩ := handle_open hquitting hdialog closing
    rw [hpresses, closes, if_pos rfl] at hclosed
    rw [hpresses] at hanswer
    rw [loop_concat hquitting]
    refine ⟨hclosed, ?_⟩
    unfold Looped.quitting
    rw [hanswer, Key.agrees_iff, decide_eq_true_iff]

/-- A play is under way when a key to quit is pressed; a key for another play comes to
nothing before the answer, and a key to stop is not read after it. -/
theorem key_loop_safe_answered :
    (fresh {} 80 24).app.quitting = false ∧ (fresh {} 80 24).KeySafe ∧
    let running : Session := { state := .running }
    let before : List Input :=
      [{ session := {}, event := .key (.char 'r') }, { session := running, event := .wheelUp }]
    let opening : Input := { session := running, event := .key (.char 'q') }
    let during : List Input :=
      [{ session := running, event := .key .tab },
        { session := running, event := .key (.char 'R') },
        { session := {}, event := .keyAgain .enter }]
    let closing : Input := { session := {}, event := .key .enter }
    let after : List Input := [{ session := {}, event := .key (.char 's') }]
    let looped := (fresh {} 80 24).loop (before ++ opening :: during ++ closing :: after)
    looped.requests = [.runOnce, .quit] ∧ looped.saved = [{}] ∧ looped.unread = after := by
  have hsafe := key_loop_safe (fresh {} 80 24) rfl
  refine ⟨rfl, hsafe, ?_⟩
  intro running before opening during closing after looped
  have listening : ((fresh {} 80 24).loop before).dialog = none := rfl
  have opens : ((fresh {} 80 24).loop (before ++ [opening])).dialog ≠ none := by
    rw [(hsafe.listens before opening rfl rfl).1]
    exact Option.some_ne_none _
  have hanswer := hsafe.answers before opening during closing .enter listening opens
    (by decide) rfl rfl
  have quits := hanswer.2.2 (.inr (.inr ⟨rfl, by decide⟩))
  have hlooped := hsafe.returns (before ++ opening :: during) closing after rfl quits
  have hquitting : looped.quitting = true :=
    (congrArg (fun looped => looped.console.app.quitting) hlooped).trans quits
  refine ⟨?_, ?_, congrArg Looped.unread hlooped⟩
  · rw [hsafe.sent, if_pos hquitting]
    rfl
  · rw [hsafe.saved, if_pos hquitting, hsafe.settings]
    rfl

end Console

end PadScript
