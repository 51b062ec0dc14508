import PadScript.App
import PadScript.Proofs.Screen.LogWindow

/-!
# The wheel and the log

Turning the wheel back shows older messages, turning it on newer ones. It may be turned back
beyond the oldest message, and how far is remembered. Turned back, it moves the window by three
messages or by those that are left; turned on, it does so only once what was too far has been
taken back (`wheel_moves_window`), and until then the window stands still
(`wheel_on_stands_still`).
-/

namespace PadScript

open Screen

namespace App

variable (app : App) (rows : Nat)

/-- How many messages are older than those in a window of so many rows. -/
def older : Nat := windowStart app.logs.size rows app.logScroll

def newer : Nat := app.logs.size - windowEnd app.logs.size rows app.logScroll

/-- How many messages the log is scrolled back beyond the oldest one. -/
def beyond : Nat := app.logScroll - (app.logs.size - rows)

variable {app} {session : Session}

theorem older_eq : app.older rows = app.logs.size - rows - app.logScroll := by
  simp only [older, windowStart]
  omega

theorem newer_eq : app.newer rows = min app.logScroll (app.logs.size - rows) := by
  simp only [newer, windowEnd]
  omega

theorem older_add_newer : app.older rows + app.newer rows = app.logs.size - rows := by
  rw [older_eq, newer_eq]
  omega

-- ---------------------------------------------------------------------------
-- One turn
-- ---------------------------------------------------------------------------

theorem older_scrollUp (hsize : app.logs.size ≤ maxScroll) (n : Nat) :
    (app.scrollUp n).older rows + min n (app.older rows) = app.older rows := by
  have hspare : app.logs.size - rows ≤ maxScroll := Nat.le_trans (Nat.sub_le ..) hsize
  simp only [older_eq, scrollUp]
  generalize app.logs.size - rows = spare at hspare ⊢
  omega

theorem older_scrollDown (n : Nat) :
    (app.scrollDown n).older rows =
      app.older rows + min (n - app.beyond rows) (app.newer rows) := by
  simp only [older_eq, newer_eq, beyond, scrollDown]
  generalize app.logs.size - rows = spare
  omega

theorem beyond_scrollUp (n : Nat) :
    (app.scrollUp n).beyond rows =
      min (app.beyond rows + (n - app.older rows)) (maxScroll - (app.logs.size - rows)) := by
  simp only [older_eq, beyond, scrollUp]
  generalize app.logs.size - rows = spare
  omega

theorem beyond_scrollDown (n : Nat) :
    (app.scrollDown n).beyond rows = app.beyond rows - n := by
  simp only [beyond, scrollDown]
  omega

theorem handle_wheelUp (h : app.quitting = false) (session : Session) :
    (app.handle session .wheelUp).1 = app.scrollUp wheelStep := by
  simp [handle, h]

theorem handle_wheelDown (h : app.quitting = false) (session : Session) :
    (app.handle session .wheelDown).1 = app.scrollDown wheelStep := by
  simp [handle, h]

theorem handle_wheel {event : TerminalEvent} (h : app.quitting = false)
    (hwheel : event = .wheelUp ∨ event = .wheelDown) :
    (app.handle session event).1.logs = app.logs ∧
      (app.handle session event).1.quitting = false := by
  rcases hwheel with rfl | rfl
  · rw [handle_wheelUp h]
    exact ⟨rfl, h⟩
  · rw [handle_wheelDown h]
    exact ⟨rfl, h⟩

-- ---------------------------------------------------------------------------
-- Many turns
-- ---------------------------------------------------------------------------

theorem handleAll_cons (event : TerminalEvent) (rest : List (Session × TerminalEvent)) :
    (app.handleAll ((session, event) :: rest)).1 =
      ((app.handle session event).1.handleAll rest).1 := rfl

variable {events : List (Session × TerminalEvent)}

theorem handleAll_wheel (h : app.quitting = false)
    (hwheel : ∀ event ∈ events, event.2 = .wheelUp ∨ event.2 = .wheelDown) :
    (app.handleAll events).1.logs = app.logs ∧ (app.handleAll events).1.quitting = false := by
  induction events generalizing app with
  | nil => exact ⟨rfl, h⟩
  | cons first rest ih =>
    obtain ⟨session, event⟩ := first
    obtain ⟨hfirst, hrest⟩ := List.forall_mem_cons.1 hwheel
    obtain ⟨hlogs, hquitting⟩ : (app.handle session event).1.logs = app.logs ∧ _ :=
      handle_wheel h hfirst
    rw [handleAll_cons, ← hlogs]
    exact ih hquitting hrest

/-- The wheel is not beyond the oldest message unless it was turned back where fewer messages
were left than a turn moves. -/
theorem beyond_handleAll (h : app.quitting = false)
    (hwheel : ∀ event ∈ events, event.2 = .wheelUp ∨ event.2 = .wheelDown)
    (hstart : app.beyond rows = 0)
    (hroom : ∀ before after session, events = before ++ (session, .wheelUp) :: after →
      wheelStep ≤ (app.handleAll before).1.older rows) :
    (app.handleAll events).1.beyond rows = 0 := by
  induction events generalizing app with
  | nil => exact hstart
  | cons first rest ih =>
    obtain ⟨session, event⟩ := first
    obtain ⟨hfirst, hrest⟩ := List.forall_mem_cons.1 hwheel
    rw [handleAll_cons]
    refine ih (handle_wheel h hfirst).2 hrest ?_ fun before after session' hevents => ?_
    · rcases hfirst with rfl | rfl
      · have hleft : wheelStep ≤ app.older rows := hroom [] rest session rfl
        rw [handle_wheelUp h, beyond_scrollUp, hstart, Nat.sub_eq_zero_of_le hleft]
        exact Nat.zero_min _
      · rw [handle_wheelDown h, beyond_scrollDown, hstart, Nat.zero_sub]
    · exact hroom ((session, event) :: before) after session' (by rw [hevents]; rfl)

end App

/-- After any turns of the wheel: turned back, it moves the window by three messages or by
those that are left; turned on, by what a turn is more than the wheel is beyond the oldest
message, which is nothing if it was never turned back too far. -/
theorem wheel_moves_window (app : App) (events : List (Session × TerminalEvent))
    (session : Session) (rows : Nat) (hquitting : app.quitting = false)
    (hsize : app.logs.size ≤ App.maxScroll)
    (hwheel : ∀ event ∈ events, event.2 = .wheelUp ∨ event.2 = .wheelDown) :
    let turned := (app.handleAll events).1
    let up := (turned.handle session .wheelUp).1
    let down := (turned.handle session .wheelDown).1
    turned.logs = app.logs ∧
      turned.older rows + turned.newer rows = app.logs.size - rows ∧
      up.older rows + min 3 (turned.older rows) = turned.older rows ∧
      down.older rows = turned.older rows + min (3 - turned.beyond rows) (turned.newer rows) ∧
      up.beyond rows = min (turned.beyond rows + (3 - turned.older rows))
        (App.maxScroll - (app.logs.size - rows)) ∧
      down.beyond rows = turned.beyond rows - 3 ∧
      (app.beyond rows = 0 →
        (∀ before after session, events = before ++ (session, .wheelUp) :: after →
          3 ≤ (app.handleAll before).1.older rows) →
        turned.beyond rows = 0) := by
  intro turned up down
  obtain ⟨hlogs, hturned⟩ := App.handleAll_wheel hquitting hwheel
  have hup : up = turned.scrollUp App.wheelStep := App.handle_wheelUp hturned session
  have hdown : down = turned.scrollDown App.wheelStep := App.handle_wheelDown hturned session
  have hfits : turned.logs.size ≤ App.maxScroll := hlogs ▸ hsize
  rw [hup, hdown, ← hlogs]
  exact ⟨rfl, App.older_add_newer rows, App.older_scrollUp rows hfits 3,
    App.older_scrollDown rows 3, App.beyond_scrollUp rows 3, App.beyond_scrollDown rows 3,
    App.beyond_handleAll rows hquitting hwheel⟩

/-- Nine messages in two rows, turned back three times and on again: the first turn on moves
the window by one message. -/
theorem wheel_moves_window_nine :
    let app : App := { logs := #["1", "2", "3", "4", "5", "6", "7", "8", "9"] }
    let events : List (Session × TerminalEvent) :=
      [({}, .wheelUp), ({}, .wheelUp), ({}, .wheelUp)]
    app.quitting = false ∧ app.logs.size ≤ App.maxScroll ∧
      (∀ event ∈ events, event.2 = .wheelUp ∨ event.2 = .wheelDown) ∧
      ((app.handleAll events).1.handle {} .wheelDown).1.older 2 = 1 := by
  intro app events
  have hwheel : ∀ event ∈ events, event.2 = .wheelUp ∨ event.2 = .wheelDown := by simp [events]
  refine ⟨rfl, by decide, hwheel, ?_⟩
  exact (wheel_moves_window app events {} 2 rfl (by decide) hwheel).2.2.2.1.trans (by decide)

/-- The wheel does not always move the window by three messages or by those that are left: with
one row for two messages, turned back twice, the next turn on leaves the window where it is. -/
theorem wheel_on_stands_still :
    ¬ ∀ (logs : Array String) (events : List (Session × TerminalEvent)) (session : Session)
      (rows : Nat), 0 < rows →
      (∀ event ∈ events, event.2 = .wheelUp ∨ event.2 = .wheelDown) →
      let turned := (({ logs } : App).handleAll events).1
      0 < turned.newer rows →
        (turned.handle session .wheelDown).1.older rows =
          turned.older rows + min 3 (turned.newer rows) := by
  intro h
  have hmoves := h #["m0", "m1"] [({}, .wheelUp), ({}, .wheelUp)] {} 1 (by decide) (by simp)
    (by decide)
  revert hmoves
  decide

end PadScript
