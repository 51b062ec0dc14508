import PadScript.Console

/-!
# Keys

What a key may do is said key by key in `Key`, apart from the program: which request it
stands for, whether it turns the selection of the dialog, which answer it gives to it.
`App.Handles` lists what the program makes of one event. Later proofs cite it, and what
follows from it with a dialog and without one, and not the program.
-/

namespace PadScript

-- ---------------------------------------------------------------------------
-- Keys
-- ---------------------------------------------------------------------------

namespace Key

def quits : Key → Bool
  | char 'q' | char 'Q' => true
  | _ => false

/-- The request that a key stands for while no dialog is open. -/
def request? (settings : Settings) (session : Session) : Key → Option Request
  | char 'c' | char 'C' => (session.path <|> settings.scriptPath).map .compile
  | char 'r' | char 'R' => some .runOnce
  | char 'l' | char 'L' => some (.runLoop settings.loopTimes)
  | char 's' | char 'S' => some .cancel
  | _ => none

def turns : Key → Bool
  | left | right | tab => true
  | _ => false

/-- The key says yes to the dialog, or takes a yes that is selected. -/
def agrees (yes : Bool) : Key → Bool
  | char 'y' | char 'Y' => true
  | enter => yes
  | _ => false

def closes : Key → Bool
  | enter | escape | char 'y' | char 'Y' | char 'n' | char 'N' => true
  | _ => false

theorem not_closes_of_turns {key : Key} (h : key.turns = true) : key.closes = false := by
  unfold turns at h
  split at h
  · rfl
  · rfl
  · rfl
  · cases h

theorem agrees_of_not_closes {key : Key} {yes : Bool} (h : key.closes = false) :
    key.agrees yes = false := by
  unfold agrees
  split
  · cases h
  · cases h
  · cases h
  · rfl

theorem agrees_iff {key : Key} {yes : Bool} :
    key.agrees yes = true ↔ key = .char 'y' ∨ key = .char 'Y' ∨ key = .enter ∧ yes = true := by
  unfold agrees
  split <;> simp_all

end Key

namespace TerminalEvent

def key? : TerminalEvent → Option Key
  | key k => some k
  | keyAgain _ | wheelUp | wheelDown | other => none

end TerminalEvent

-- ---------------------------------------------------------------------------
-- One event
-- ---------------------------------------------------------------------------

namespace App

def Effect.request? : Effect → Option Request
  | send request => some request
  | log _ | save _ => none

def Effect.saved? : Effect → Option Settings
  | save settings => some settings
  | log _ | send _ => none

def request? (app : App) (session : Session) (event : TerminalEvent) : Option Request :=
  match app.dialog with
  | some _ => none
  | none => event.key?.bind (Key.request? app.settings session)

/-- The settings remember the path of the last compilation that was asked for. -/
def remember (settings : Settings) : Request → Settings
  | .compile path => { settings with scriptPath := some path }
  | .runOnce | .runLoop _ | .cancel | .quit => settings

/-- What a program that is not quitting makes of an event. -/
inductive Handles (app : App) (session : Session) (event : TerminalEvent) :
    App → List Effect → Prop
  /-- At most the log is scrolled, shown or hidden, or a complaint is logged. -/
  | quiet {next effects} (settings : next.settings = app.settings)
      (dialog : next.dialog = app.dialog) (quitting : next.quitting = false)
      (requests : effects.filterMap Effect.request? = [])
      (saved : effects.filterMap Effect.saved? = []) (request : app.request? session event = none)
      (idle : ∀ key, event.key? = some key → app.dialog = none → key.quits = false)
      (open' : ∀ key, event.key? = some key → app.dialog.isSome →
        key.turns = false ∧ key.closes = false) :
      app.Handles session event next effects
  | asks (request : Request) (settings : Settings) (h : app.request? session event = some request)
      (hs : settings = remember app.settings request) :
      app.Handles session event { app with settings } [.send request]
  | opens (key : Key) (pressed : event.key? = some key) (quits : key.quits = true)
      (dialog : app.dialog = none) (running : session.isRunning = true) :
      app.Handles session event { app with dialog := some { message := question } } []
  | turns (dialog : Screen.Dialog) (key : Key) (open' : app.dialog = some dialog)
      (pressed : event.key? = some key) (turns : key.turns = true) :
      app.Handles session event { app with dialog := some dialog.toggle } []
  | dismisses (dialog : Screen.Dialog) (key : Key) (open' : app.dialog = some dialog)
      (pressed : event.key? = some key) (closes : key.closes = true)
      (agrees : key.agrees dialog.yes = false) :
      app.Handles session event { app with dialog := none } []
  | quitsAtOnce (key : Key) (pressed : event.key? = some key) (quits : key.quits = true)
      (dialog : app.dialog = none) (idle : session.isRunning = false) :
      app.Handles session event { app with quitting := true } [.save app.settings, .send .quit]
  | agrees (dialog : Screen.Dialog) (key : Key) (open' : app.dialog = some dialog)
      (pressed : event.key? = some key) (closes : key.closes = true)
      (agrees : key.agrees dialog.yes = true) :
      app.Handles session event { app with dialog := none, quitting := true }
        [.save app.settings, .send .quit]

variable {app : App} {session : Session}

theorem handles_dialogKey {dialog : Screen.Dialog} (h : app.quitting = false)
    (hd : app.dialog = some dialog) (key : Key) :
    app.Handles session (.key key) (app.dialogKey dialog key).1 (app.dialogKey dialog key).2 := by
  unfold dialogKey
  split
  · exact .turns dialog .left hd rfl rfl
  · exact .turns dialog .right hd rfl rfl
  · exact .turns dialog .tab hd rfl rfl
  · cases hy : dialog.yes with
    | true => exact .agrees dialog .enter hd rfl rfl hy
    | false => exact .dismisses dialog .enter hd rfl rfl hy
  · exact .agrees dialog (.char 'y') hd rfl rfl rfl
  · exact .agrees dialog (.char 'Y') hd rfl rfl rfl
  · exact .dismisses dialog .escape hd rfl rfl rfl
  · exact .dismisses dialog (.char 'n') hd rfl rfl rfl
  · exact .dismisses dialog (.char 'N') hd rfl rfl rfl
  · have hturns : key.turns = false := by
      unfold Key.turns
      split <;> simp_all
    have hcloses : key.closes = false := by
      unfold Key.closes
      split <;> simp_all
    refine .quiet rfl rfl h rfl rfl (by simp [request?, hd]) ?_ ?_
    · intro pressed _ hnone
      cases hd.symm.trans hnone
    · intro pressed hp _
      obtain rfl := Option.some.inj hp
      exact ⟨hturns, hcloses⟩

theorem handles_requestQuit {key : Key} (hd : app.dialog = none)
    (hq : key.quits = true) :
    app.Handles session (.key key) (app.requestQuit session).1 (app.requestQuit session).2 := by
  unfold requestQuit
  cases hr : session.isRunning with
  | true => exact .opens key rfl hq hd hr
  | false => exact .quitsAtOnce key rfl hq hd hr

theorem handles_quiet {key : Key} {next : App} {effects : List Effect} (h : app.quitting = false)
    (hd : app.dialog = none) (settings : next.settings = app.settings)
    (dialog : next.dialog = app.dialog) (quitting : next.quitting = app.quitting)
    (requests : effects.filterMap Effect.request? = [])
    (saved : effects.filterMap Effect.saved? = [])
    (hrequest : key.request? app.settings session = none) (hq : key.quits = false) :
    app.Handles session (.key key) next effects := by
  refine .quiet settings dialog (quitting.trans h) requests saved ?_ ?_ ?_
  · simpa [request?, hd, TerminalEvent.key?] using hrequest
  · intro pressed hp _
    obtain rfl := Option.some.inj hp
    exact hq
  · intro pressed _ hsome
    simp [hd] at hsome

theorem handles_recompile {key : Key} (h : app.quitting = false) (hd : app.dialog = none)
    (hq : key.quits = false) (hrequest : key.request? app.settings session =
      (session.path <|> app.settings.scriptPath).map .compile) :
    app.Handles session (.key key) (app.recompile session).1 (app.recompile session).2 := by
  unfold recompile
  cases hp : session.path <|> app.settings.scriptPath with
  | none => exact handles_quiet h hd rfl rfl rfl rfl rfl (by rw [hrequest, hp]; rfl) hq
  | some path =>
    refine .asks (.compile path) _ ?_ rfl
    rw [hp] at hrequest
    simpa [request?, hd, TerminalEvent.key?] using hrequest

theorem handles_mainKey (h : app.quitting = false) (hd : app.dialog = none) (key : Key) :
    app.Handles session (.key key) (app.mainKey session key).1 (app.mainKey session key).2 := by
  have hrequest (key : Key) :
      app.request? session (.key key) = key.request? app.settings session := by
    simp [request?, hd, TerminalEvent.key?]
  unfold mainKey
  split
  · exact handles_requestQuit hd rfl
  · exact handles_requestQuit hd rfl
  · exact handles_recompile h hd rfl rfl
  · exact handles_recompile h hd rfl rfl
  · exact .asks .runOnce _ (hrequest _) rfl
  · exact .asks .runOnce _ (hrequest _) rfl
  · exact .asks (.runLoop app.settings.loopTimes) _ (hrequest _) rfl
  · exact .asks (.runLoop app.settings.loopTimes) _ (hrequest _) rfl
  · exact .asks .cancel _ (hrequest _) rfl
  · exact .asks .cancel _ (hrequest _) rfl
  · exact handles_quiet h hd rfl rfl rfl rfl rfl rfl rfl
  · exact handles_quiet h hd rfl rfl rfl rfl rfl rfl rfl
  · refine handles_quiet h hd rfl rfl rfl rfl rfl ?_ ?_
    · unfold Key.request?
      split <;> simp_all
    · unfold Key.quits
      split <;> simp_all

theorem handles_handle (h : app.quitting = false) (session : Session) (event : TerminalEvent) :
    app.Handles session event (app.handle session event).1 (app.handle session event).2 := by
  have hother {event : TerminalEvent} (hkey : event.key? = none) {next : App}
      (hs : next.settings = app.settings) (hd : next.dialog = app.dialog)
      (hq : next.quitting = app.quitting) : app.Handles session event next [] := by
    refine .quiet hs hd (hq.trans h) rfl rfl ?_ (by simp [hkey]) (by simp [hkey])
    unfold request?
    split
    · rfl
    · simp [hkey]
  unfold handle
  simp only [h, Bool.false_eq_true, if_false]
  cases event with
  | key key =>
    cases hd : app.dialog with
    | some dialog => exact handles_dialogKey h hd key
    | none => exact handles_mainKey h hd key
  | wheelUp => exact hother rfl rfl rfl rfl
  | wheelDown => exact hother rfl rfl rfl rfl
  | keyAgain key => exact hother rfl rfl rfl rfl
  | other => exact hother rfl rfl rfl rfl

variable {event : TerminalEvent} {next : App} {effects : List Effect}

theorem request?_of_open {dialog : Screen.Dialog} (hd : app.dialog = some dialog) :
    app.request? session event = none := by
  simp [request?, hd]

theorem request?_of_quits {key : Key} (hk : event.key? = some key) (hq : key.quits = true) :
    app.request? session event = none := by
  have hkey : key.request? app.settings session = none := by
    unfold Key.quits at hq
    split at hq
    · rfl
    · rfl
    · cases hq
  unfold request?
  split
  · rfl
  · rw [hk, Option.bind_some, hkey]

theorem request?_ne_quit : app.request? session event ≠ some .quit := by
  unfold request?
  split
  · exact nofun
  · intro h
    obtain ⟨key, -, hkey⟩ := Option.bind_eq_some_iff.1 h
    unfold Key.request? at hkey
    split at hkey
    all_goals simp_all

/-- A request to quit comes together with the settings to save, when the program begins to
quit; any other request is the one that the event stands for. -/
theorem Handles.sends (hh : app.Handles session event next effects) (h : app.quitting = false) :
    effects.filterMap Effect.request? =
        (app.request? session event).toList ++ (if next.quitting then [.quit] else []) ∧
      effects.filterMap Effect.saved? = (if next.quitting then [next.settings] else []) := by
  cases hh with
  | quiet hs hd hq hr hsaved hrequest => simp [hr, hsaved, hq, hrequest]
  | asks request settings hrequest =>
    rw [hrequest]
    simp [h, Effect.request?, Effect.saved?]
  | opens key hk hq =>
    rw [request?_of_quits hk hq]
    simp [h]
  | turns dialog key hd =>
    rw [request?_of_open hd]
    simp [h]
  | dismisses dialog key hd =>
    rw [request?_of_open hd]
    simp [h]
  | quitsAtOnce key hk hq =>
    rw [request?_of_quits hk hq]
    exact ⟨rfl, rfl⟩
  | agrees dialog key hd =>
    rw [request?_of_open hd]
    exact ⟨rfl, rfl⟩

theorem Handles.settings (hh : app.Handles session event next effects) :
    next.settings = (app.request? session event).toList.foldl remember app.settings := by
  cases hh with
  | quiet hs hd hq hr hsaved hrequest => rw [hs, hrequest]; rfl
  | asks request settings hrequest hs => rw [hrequest, hs]; rfl
  | opens key hk hq => rw [request?_of_quits hk hq]; rfl
  | turns dialog key hd => rw [request?_of_open hd]; rfl
  | dismisses dialog key hd => rw [request?_of_open hd]; rfl
  | quitsAtOnce key hk hq => rw [request?_of_quits hk hq]; rfl
  | agrees dialog key hd => rw [request?_of_open hd]; rfl

theorem Handles.of_listening (hh : app.Handles session event next effects)
    (h : app.quitting = false) (hd : app.dialog = none) :
    next.dialog = (if event.key?.any Key.quits && session.isRunning then
        some { message := question } else none) ∧
      next.quitting = (event.key?.any Key.quits && !session.isRunning) := by
  have hopened {dialog : Screen.Dialog} (hopen : app.dialog = some dialog) : False := by
    cases hd.symm.trans hopen
  cases hh with
  | quiet _ hsame hq _ _ _ hidle =>
    have hquits : event.key?.any Key.quits = false := by
      cases hk : event.key? with
      | none => rfl
      | some key => exact hidle key hk hd
    simp [hquits, hsame, hd, hq]
  | asks request settings hrequest =>
    have hquits : event.key?.any Key.quits = false := by
      cases hk : event.key? with
      | none => rfl
      | some key =>
        refine Bool.eq_false_iff.2 fun hq => ?_
        cases (request?_of_quits hk hq).symm.trans hrequest
    simp [hquits, hd, h]
  | opens key hk hq _ hr => simp [hk, hq, hr, h]
  | quitsAtOnce key hk hq _ hi => simp [hk, hq, hi, hd]
  | turns _ _ hopen | dismisses _ _ hopen | agrees _ _ hopen => exact (hopened hopen).elim

theorem Handles.of_open (hh : app.Handles session event next effects) (h : app.quitting = false)
    {dialog : Screen.Dialog} (hd : app.dialog = some dialog) :
    next.dialog = (if event.key?.any Key.closes then none else
        some { dialog with yes := xor dialog.yes (event.key?.any Key.turns) }) ∧
      next.quitting = event.key?.any (Key.agrees dialog.yes) := by
  cases hh with
  | quiet _ hsame hq _ _ _ _ hopen =>
    cases hk : event.key? with
    | none => simp [hsame, hd, hq]
    | some key =>
      obtain ⟨hturns, hcloses⟩ := hopen key hk (by simp [hd])
      simp [hsame, hd, hq, hturns, hcloses, Key.agrees_of_not_closes hcloses]
  | asks request settings hrequest => cases (request?_of_open hd).symm.trans hrequest
  | turns other key hopen hk ht =>
    obtain rfl := Option.some.inj (hopen.symm.trans hd)
    have hcloses := Key.not_closes_of_turns ht
    simp [hk, ht, hcloses, h, Screen.Dialog.toggle, Key.agrees_of_not_closes hcloses]
  | dismisses other key hopen hk hc ha =>
    obtain rfl := Option.some.inj (hopen.symm.trans hd)
    simp [hk, hc, ha, h]
  | agrees other key hopen hk hc ha =>
    obtain rfl := Option.some.inj (hopen.symm.trans hd)
    simp [hk, hc, ha]
  | opens _ _ _ hnone | quitsAtOnce _ _ _ hnone => cases hnone.symm.trans hd

theorem receive_dialogKey (records : List String) (dialog : Screen.Dialog) (key : Key) :
    (app.receive records).dialogKey dialog key =
      ((app.dialogKey dialog key).1.receive records, (app.dialogKey dialog key).2) := by
  have hanswer (yes : Bool) : (app.receive records).answer yes =
      ((app.answer yes).1.receive records, (app.answer yes).2) := by
    cases yes <;> rfl
  unfold dialogKey
  split
  all_goals first | rfl | exact hanswer _

theorem receive_mainKey (records : List String) (key : Key) :
    (app.receive records).mainKey session key =
      ((app.mainKey session key).1.receive records, (app.mainKey session key).2) := by
  have hquit : (app.receive records).requestQuit session =
      ((app.requestQuit session).1.receive records, (app.requestQuit session).2) := by
    unfold requestQuit
    split <;> rfl
  have hrecompile : (app.receive records).recompile session =
      ((app.recompile session).1.receive records, (app.recompile session).2) := by
    have hpath : (app.receive records).settings.scriptPath = app.settings.scriptPath := rfl
    unfold recompile
    rw [hpath]
    cases session.path <|> app.settings.scriptPath <;> rfl
  unfold mainKey
  split
  all_goals first | rfl | exact hquit | exact hrecompile

theorem receive_handle (records : List String) :
    (app.receive records).handle session event =
      ((app.handle session event).1.receive records, (app.handle session event).2) := by
  change (if app.quitting then _ else _) = _
  unfold handle
  cases app.quitting with
  | true => rfl
  | false =>
    simp only [Bool.false_eq_true, if_false]
    cases event with
    | key key =>
      change (match app.dialog with | some _ => _ | none => _) = _
      cases hd : app.dialog with
      | some dialog => exact receive_dialogKey records dialog key
      | none => exact receive_mainKey records key
    | wheelUp | wheelDown | keyAgain _ | other => rfl

theorem effects_handleAll_cons (rest : List (Session × TerminalEvent)) :
    (app.handleAll ((session, event) :: rest)).2 =
      (app.handle session event).2 ++ ((app.handle session event).1.handleAll rest).2 := rfl

theorem effects_handleAll_receive (app : App) (records : List String)
    (events : List (Session × TerminalEvent)) :
    ((app.receive records).handleAll events).2 = (app.handleAll events).2 := by
  induction events generalizing app with
  | nil => rfl
  | cons first rest ih =>
    rw [effects_handleAll_cons, effects_handleAll_cons, receive_handle, ih]

theorem effects_handleAll_of_quitting (h : app.quitting = true)
    (events : List (Session × TerminalEvent)) : (app.handleAll events).2 = [] := by
  induction events with
  | nil => rfl
  | cons first rest ih =>
    have hhandle : app.handle first.1 first.2 = (app, []) := by simp [handle, h]
    rw [effects_handleAll_cons, hhandle, ih]
    rfl

end App

end PadScript
