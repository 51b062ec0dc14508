import Mathlib.Data.List.TakeWhile
import PadScript.Proofs.Host.Closing
import PadScript.Proofs.Host.Rest
import PadScript.Service

/-!
# How a service ends

A service hands the requests on its channel to its host, one after the other and up to
the first request to quit; when nobody can send any more it quits by itself. Every run of
a service is a run of its host (`Service.turns_of_run`), so what closes the output and
when is a law of hosts. When the service is over the output was closed once, after
the last write and with no thread left, or a thread has lost it (`service_shuts_down`).
-/

namespace PadScript

def Service.Move.sent? : Service.Move → Option Request
  | send request => some request
  | hangUp | receive _ | timeOut | turn _ => none

def Turn.request? : Turn → Option Request
  | request asked _ => some asked
  | compile .. | collect | host _ | thread .. | crash | stop => none

def requests (turns : List Turn) : List Request := turns.filterMap Turn.request?

namespace Service

variable {σ : Type}

def behind (host : Host σ) : Service σ := { host }

def run (service : Service σ) : List Move → Option (Service σ × List HostEvent)
  | [] => some (service, [])
  | move :: rest => do
    let (service, events) ← service.step move
    let (service, later) ← service.run rest
    some (service, events ++ later)

def sent (moves : List Move) : List Request := moves.filterMap Move.sent?

-- ---------------------------------------------------------------------------
-- One move
-- ---------------------------------------------------------------------------

variable {service next : Service σ} {move : Move} {events : List HostEvent}

inductive Does (service : Service σ) : Move → Service σ → List HostEvent → Prop
  | send {request} (hconnected : service.connected = true) :
      Does service (.send request) { service with inbox := service.inbox ++ [request] } []
  | hangUp : Does service .hangUp { service with connected := false } []
  | receive {found request rest host events} (hquitting : service.quitting = false)
      (hinbox : service.inbox = request :: rest)
      (hstep : service.host.step (.request request found) = some (host, events)) :
      Does service (.receive found)
        { service with host, inbox := rest, quitting := decide (request = .quit) } events
  | giveUp {found host events} (hquitting : service.quitting = false)
      (hinbox : service.inbox = []) (hconnected : service.connected = false)
      (hstep : service.host.step (.request .quit found) = some (host, events)) :
      Does service (.receive found) { service with host, quitting := true } events
  | turn {move turn host events} (hstep : service.host.step turn = some (host, events))
      (hrequest : turn.request? = none) (hmove : move.sent? = none) :
      Does service move { service with host } events

theorem turn_eq_some {turn : Turn} (h : service.turn turn = some (next, events)) :
    ∃ host, service.host.step turn = some (host, events) ∧ next = { service with host } := by
  obtain ⟨⟨host, seen⟩, hstep, h⟩ := Option.bind_eq_some_iff.1 h
  cases h
  exact ⟨host, hstep, rfl⟩

theorem does_of_step (h : service.step move = some (next, events)) :
    service.Does move next events := by
  cases move with
  | send request =>
    simp only [step] at h
    split at h
    · rename_i hconnected
      cases h
      exact .send hconnected
    · cases h
  | hangUp =>
    cases h
    exact .hangUp
  | receive found =>
    simp only [step] at h
    split at h
    · cases h
    · rename_i hquitting
      have hquitting : service.quitting = false := by simpa using hquitting
      unfold receive at h
      split at h
      · rename_i request rest hinbox
        obtain ⟨host, hstep, rfl⟩ := turn_eq_some h
        exact .receive hquitting hinbox hstep
      · rename_i hinbox
        split at h
        · cases h
        · rename_i hconnected
          obtain ⟨host, hstep, rfl⟩ := turn_eq_some h
          exact .giveUp hquitting hinbox (by simpa using hconnected) hstep
  | timeOut =>
    simp only [step] at h
    split at h
    · cases h
    · obtain ⟨host, hstep, rfl⟩ := turn_eq_some h
      exact .turn hstep rfl rfl
  | turn turn =>
    cases turn with
    | request request found => cases h
    | compile path source => cases h
    | collect => cases h
    | _ =>
      obtain ⟨host, hstep, rfl⟩ := turn_eq_some h
      exact .turn hstep rfl rfl

-- ---------------------------------------------------------------------------
-- All moves
-- ---------------------------------------------------------------------------

/-- What was sent has been handed to the host or waits, up to the first request to quit. -/
structure Ledger (service : Service σ) (sent handled : List Request) : Prop where
  waiting : service.quitting = false →
    sent = handled ++ service.inbox ∧ Request.quit ∉ handled
  leaving : service.quitting = true → ∃ before, handled = before ++ [.quit] ∧
    Request.quit ∉ before ∧
      (sent = handled ++ service.inbox ∨ service.connected = false ∧ sent = before)

variable {handled before : List Request}

theorem Ledger.does (h : service.Ledger before handled) (hd : service.Does move next events) :
    ∃ turns, service.host.run turns = some (next.host, events) ∧
      next.Ledger (before ++ move.sent?.toList) (handled ++ requests turns) := by
  cases hd with
  | @send request hconnected =>
    refine ⟨[], rfl, fun hq => ?_, fun hq => ?_⟩
    · obtain ⟨hsent, hnone⟩ := h.waiting hq
      exact ⟨by simp [hsent, requests, Move.sent?], by simpa [requests] using hnone⟩
    · obtain ⟨first, hhandled, hnone, hsent | ⟨hgone, -⟩⟩ := h.leaving hq
      · refine ⟨first, by simp [hhandled, requests], hnone, .inl ?_⟩
        simp [hsent, requests, Move.sent?]
      · cases hconnected.symm.trans hgone
  | hangUp =>
    refine ⟨[], rfl, fun hq => ?_, fun hq => ?_⟩
    · simpa [requests, Move.sent?] using h.waiting hq
    · obtain ⟨first, hhandled, hnone, hsent | ⟨-, hsent⟩⟩ := h.leaving hq
      · exact ⟨first, by simp [hhandled, requests], hnone,
          .inl (by simp [hsent, requests, Move.sent?])⟩
      · exact ⟨first, by simp [hhandled, requests], hnone, .inr ⟨rfl, by simp [hsent, Move.sent?]⟩⟩
  | @receive found request rest host _ hquitting hinbox hstep =>
    obtain ⟨hsent, hnone⟩ := h.waiting hquitting
    refine ⟨[.request request found], Host.run_singleton hstep, fun hq => ?_, fun hq => ?_⟩
    · have hne : request ≠ .quit := by simpa using hq
      exact ⟨by simp [hsent, hinbox, requests, Turn.request?, Move.sent?],
        by simpa [requests, Turn.request?, hne.symm] using hnone⟩
    · obtain rfl : request = .quit := by simpa using hq
      refine ⟨handled, rfl, hnone, .inl ?_⟩
      simp [hsent, hinbox, requests, Turn.request?, Move.sent?]
  | @giveUp found host _ hquitting hinbox hconnected hstep =>
    obtain ⟨hsent, hnone⟩ := h.waiting hquitting
    refine ⟨[.request .quit found], Host.run_singleton hstep, fun hq => (by cases hq), fun _ => ?_⟩
    exact ⟨handled, rfl, hnone, .inr ⟨hconnected, by simp [hsent, hinbox, Move.sent?]⟩⟩
  | @turn _ turn host _ hstep hrequest hmove =>
    refine ⟨[turn], Host.run_singleton hstep, ?_⟩
    have hnone : requests [turn] = [] := by simp [requests, hrequest]
    rw [hnone, hmove]
    simpa using ⟨h.waiting, h.leaving⟩

theorem Ledger.run {moves : List Move} (h : service.Ledger before handled)
    (hrun : service.run moves = some (next, events)) :
    ∃ turns, service.host.run turns = some (next.host, events) ∧
      next.Ledger (before ++ sent moves) (handled ++ requests turns) := by
  induction moves generalizing service before handled events with
  | nil =>
    cases hrun
    exact ⟨[], rfl, by simpa [sent, requests] using h⟩
  | cons move rest ih =>
    obtain ⟨⟨middle, seen⟩, hstep, hrun⟩ := Option.bind_eq_some_iff.1 hrun
    obtain ⟨⟨last, more⟩, hrest, he⟩ := Option.bind_eq_some_iff.1 hrun
    cases he
    obtain ⟨first, hfirst, hmiddle⟩ := h.does (does_of_step hstep)
    obtain ⟨others, hothers, hlast⟩ := ih hmiddle hrest
    refine ⟨first ++ others, Host.run_append hfirst hothers, ?_⟩
    have hsent : sent (move :: rest) = move.sent?.toList ++ sent rest := by
      cases hs : move.sent? <;> simp [sent, hs]
    have hrequests : requests (first ++ others) = requests first ++ requests others :=
      List.filterMap_append
    rw [hsent, hrequests, ← List.append_assoc, ← List.append_assoc]
    exact hlast

theorem Ledger.handled_eq (h : service.Ledger before handled) (hq : service.quitting = true) :
    handled = before.takeWhile (· ≠ .quit) ++ [.quit] ∧
      (Request.quit ∈ before ∨ service.connected = false) := by
  obtain ⟨first, rfl, hnone, hsent⟩ := h.leaving hq
  have hfirst : ∀ request ∈ first, decide (request ≠ .quit) = true := fun request hr =>
    decide_eq_true fun he => hnone (he ▸ hr)
  rcases hsent with rfl | ⟨hgone, rfl⟩
  · refine ⟨?_, .inl (by simp)⟩
    rw [List.append_assoc, List.takeWhile_append_of_pos hfirst]
    simp
  · exact ⟨by rw [List.takeWhile_eq_self_iff.2 hfirst], .inr hgone⟩

-- ---------------------------------------------------------------------------
-- Coming to the end
-- ---------------------------------------------------------------------------

def Move.isOwn : Move → Bool
  | receive _ => true
  | turn taken => taken.isOwn
  | send _ | hangUp | timeOut => false

/-- With moves of its own the service can come to its end. -/
def Returns (service : Service σ) : Prop :=
  ∃ moves later events, (∀ move ∈ moves, move.isOwn = true) ∧
    service.run moves = some (later, events) ∧ later.isOver = true

theorem Returns.step (hstep : service.step move = some (next, events)) (hown : move.isOwn = true)
    (h : next.Returns) : service.Returns := by
  obtain ⟨moves, later, more, hmoves, hrun, hover⟩ := h
  refine ⟨move :: moves, later, events ++ more, List.forall_mem_cons.2 ⟨hown, hmoves⟩, ?_, hover⟩
  rw [run, hstep, Option.bind_eq_bind, Option.bind_some]
  simp only [hrun, Option.bind_some]

theorem Returns.of_reaches {reached : Host σ → Prop} (h : service.host.Reaches reached)
    (hnext : ∀ host, reached host → { service with host }.Returns) : service.Returns := by
  obtain ⟨turns, later, events, hturns, hrun, hreached⟩ := h
  induction turns generalizing service events with
  | nil =>
    cases hrun
    exact hnext _ hreached
  | cons turn rest ih =>
    obtain ⟨hown, hrest⟩ := List.forall_mem_cons.1 hturns
    obtain ⟨⟨host, seen⟩, hstep, hrun⟩ := Option.bind_eq_some_iff.1 hrun
    obtain ⟨⟨last, more⟩, hlast, he⟩ := Option.bind_eq_some_iff.1 hrun
    cases he
    have hmove : service.step (.turn turn) = some ({ service with host }, seen) := by
      cases turn with
      | host | thread => simp [Service.step, Service.turn, hstep]
      | _ => cases hown
    exact .step hmove hown (ih hnext more hrest hlast)

theorem returns_of_quitting (hq : service.quitting = true) (hstop : service.host.Stopping) :
    service.Returns :=
  .of_reaches (Host.comesToRest hstop) fun host hready =>
    ⟨[], { service with host }, [], by simp, rfl, by simp [isOver, hq, hready]⟩

theorem exists_request {host : Host σ} (hready : host.isReady = true) (hstop : host.Stopping)
    (request : Request) (found : Except Fault String) : ∃ later events,
      host.step (.request request found) = some (later, events) ∧ later.Stopping := by
  have hstep : host.step (.request request found) = some (host.beginRequest request found) :=
    if_pos hready
  exact ⟨_, _, hstep, Host.stopping_of_step hstop hstep⟩

/-- A service that was asked to quit, or that nobody can ask for anything any more, can come to
its end whatever its host is about to do. -/
theorem returns (hstop : service.host.Stopping)
    (h : service.quitting = true ∨ Request.quit ∈ service.inbox ∨ service.connected = false) :
    service.Returns := by
  obtain ⟨host, inbox, connected, quitting⟩ := service
  induction inbox generalizing host quitting with
  | nil =>
    cases quitting with
    | true => exact returns_of_quitting rfl hstop
    | false =>
      obtain rfl : connected = false := by simpa using h
      refine .of_reaches (Host.comesToRest hstop) fun rested hready => ?_
      obtain ⟨later, events, hstep, hstop'⟩ :=
        exists_request hready (Host.stopping_of_ready (by simpa [Host.isReady] using hready))
          .quit (.ok "")
      have hmove : step ⟨rested, [], false, false⟩ (.receive (.ok "")) =
          some (⟨later, [], false, true⟩, events) := by
        simp [step, receive, turn, hstep]
      exact .step hmove rfl (returns_of_quitting rfl hstop')
  | cons request rest ih =>
    cases quitting with
    | true => exact returns_of_quitting rfl hstop
    | false =>
      refine .of_reaches (Host.comesToRest hstop) fun rested hready => ?_
      obtain ⟨later, events, hstep, hstop'⟩ :=
        exists_request hready (Host.stopping_of_ready (by simpa [Host.isReady] using hready))
          request (.ok "")
      have hmove : step ⟨rested, request :: rest, connected, false⟩ (.receive (.ok "")) =
          some (⟨later, rest, connected, decide (request = .quit)⟩, events) := by
        simp [step, receive, turn, hstep]
      refine .step hmove rfl (ih later _ hstop' ?_)
      -- Either this was the request to quit, or whatever ends the service is still to come.
      by_cases hquit : request = .quit
      · exact .inl (decide_eq_true hquit)
      · exact .inr (by simpa [Ne.symm hquit] using h)

end Service

namespace Chronicle

variable {σ : Type} {c : Chronicle σ}

theorem quitAsked_iff : c.QuitAsked ↔ Request.quit ∈ requests c.turns := by
  simp only [QuitAsked, requests, List.mem_filterMap]
  constructor
  · rintro ⟨found, hfound⟩
    exact ⟨_, hfound, rfl⟩
  · rintro ⟨turn, hturn, hrequest⟩
    cases turn with
    | request asked found =>
      cases hrequest
      exact ⟨found, hturn⟩
    | _ => cases hrequest

end Chronicle

/-- A service takes a host that was not asked to quit before, whatever else it has done. Up to
the first request to quit all that is sent is handed to the host in order. Once the service is
over no thread is left, and the output was closed by one turn that found no thread and after
which nothing was written, unless a thread broke down and nothing was closed. The service can
always come to its end once it is to quit. And a host that was asked to quit by anybody writes
nothing more and closes nothing more, whatever it is asked afterwards. -/
theorem service_shuts_down {σ : Type} (registry : Registry) (session : Session)
    (progress : Progress) (output : σ) {earlier : List Turn} {first : Host σ}
    {seen : List HostEvent}
    (hfirst : (Host.given registry session progress output).run earlier = some (first, seen))
    (hready : first.isReady = true) :
    (Request.quit ∉ requests earlier → ∀ moves service events,
      (Service.behind first).run moves = some (service, events) →
      ∃ turns, first.run turns = some (service.host, events) ∧
        (service.quitting = false →
          Service.sent moves = requests turns ++ service.inbox ∧ Request.quit ∉ requests turns) ∧
        (service.isOver = true →
          requests turns = (Service.sent moves).takeWhile (· ≠ .quit) ++ [.quit] ∧
          (Request.quit ∈ Service.sent moves ∨ service.connected = false) ∧
          service.host.active = none ∧
          (Turn.crash ∉ earlier ++ turns → first.ClosesOnce turns events) ∧
          (Turn.crash ∈ earlier ++ turns → ∀ failure, .play (.closed failure) ∉ events)) ∧
        (service.quitting = true ∨ Request.quit ∈ service.inbox ∨ service.connected = false →
          service.Returns)) ∧
    (Request.quit ∈ requests earlier → ∀ more later events,
      first.run more = some (later, events) → Silent events ∧ later.active = none) := by
  change (Chronicle.ofHost (Host.given registry session progress output)).host.run earlier = _
    at hfirst
  obtain ⟨c, hc, rfl, -⟩ := Chronicle.after_of_run hfirst
  have ho : c.Orderly output :=
    (Chronicle.orderly_ofHost registry session progress output).after hc
  have hparting : c.Parting := (Chronicle.parting_ofHost _).after
    (Chronicle.orderly_ofHost registry session progress output) hc
  have hturns : c.turns = earlier := Chronicle.turns_of_after hc
  refine ⟨fun hquit moves service events hrun => ?_, fun hquit more later events hmore => ?_⟩
  · have hledger : (Service.behind c.host).Ledger [] [] :=
      ⟨fun _ => ⟨rfl, List.not_mem_nil⟩, fun hq => by cases hq⟩
    obtain ⟨turns, hhost, hlater⟩ := hledger.run hrun
    rw [List.nil_append, List.nil_append] at hlater
    have htask : c.host.task = .ready := by simpa [Host.isReady] using hready
    have hstopping : service.host.Stopping :=
      Host.stopping_of_run (Host.stopping_of_ready htask) hhost
    refine ⟨turns, hhost, hlater.waiting, fun hover => ?_, service.returns hstopping⟩
    obtain ⟨hquitting, hrested⟩ := Bool.and_eq_true_iff.1 hover
    obtain ⟨hhandled, hasked⟩ := hlater.handled_eq hquitting
    obtain ⟨d, hd, hdhost, hdevents⟩ := Chronicle.after_of_run hhost
    have hdturns : d.turns = earlier ++ turns := by rw [Chronicle.turns_of_after hd, hturns]
    have hod : d.Orderly output := ho.after hd
    -- The host was asked to quit and is at rest, so there is no output any more.
    have hgone : d.host.Gone := by
      refine (hparting.after ho hd).gone (Chronicle.quitAsked_iff.2 ?_) (hdhost ▸ hrested)
      rw [hdturns, requests, List.filterMap_append]
      exact List.mem_append_right _ (by rw [← requests, hhandled]; simp)
    refine ⟨hhandled, hasked, hdhost ▸ hgone.active, fun hsound => ?_,
      fun hcrash failure hmem => ?_⟩
    · refine ho.closesOnce (ho.not_closed ?_) hd hdevents ((hod.closed_iff hgone).2 ?_)
      · rwa [Chronicle.quitAsked_iff, hturns]
      · rwa [Chronicle.Crashed, hdturns]
    · refine (hod.closed_iff hgone).1 ⟨failure, ?_⟩ ?_
      · rw [hdevents]
        exact List.mem_append_right _ hmem
      · rwa [Chronicle.Crashed, hdturns]
  · obtain ⟨d, hd, rfl, hdevents⟩ := Chronicle.after_of_run hmore
    have hasked : c.QuitAsked := by rwa [Chronicle.quitAsked_iff, hturns]
    obtain ⟨hgone, after, hafter, hsilent⟩ :=
      Chronicle.gone_after (hparting.gone hasked hready) hd
    obtain rfl : events = after := List.append_cancel_left (hdevents.symm.trans hafter)
    exact ⟨hsilent, hgone.active⟩

def quitMeanwhile : List Service.Move :=
  List.flatten [[.send .runOnce, .receive (.ok ""), .turn (.host none)],
    .replicate 3 (.turn (.thread 10 none)), [.send .quit, .send .cancel, .receive (.ok "")],
    .replicate 3 (.turn (.host none)), .replicate 8 (.turn (.thread 20 none)), [.hangUp],
    .replicate 3 (.turn (.host none))]

/-- The play that was under way is released, and the output is closed after it. -/
theorem service_shuts_down_meanwhile :
    ∃ first seen service events,
      (Host.given .builtin {} {} ()).run [.compile none "Press A", .host none] =
        some (first, seen) ∧
      (Service.behind first).run quitMeanwhile = some (service, events) ∧
      service.inbox.length = 1 ∧ events.filterMap HostEvent.write? =
        [.wrote Buttons.a.frame, .wrote Buttons.released.frame] ∧
      ∃ turns, first.run turns = some (service.host, events) ∧
        requests turns = [.runOnce, .quit] ∧ service.host.active = none ∧
        first.ClosesOnce turns events := by
  have hreached : ((Host.given .builtin {} {} ()).run [.compile none "Press A", .host none]).map
      (fun (first, _) => (first.isReady, ((Service.behind first).run quitMeanwhile).map
        fun (service, events) => (service.isOver && decide (.play (.closed none) ∈ events),
          service.inbox.length, events.filterMap HostEvent.write?))) =
      some (true, some (true, 1, [.wrote Buttons.a.frame, .wrote Buttons.released.frame])) := by
    decide +kernel
  obtain ⟨⟨first, seen⟩, hfirst, hreached⟩ := Option.map_eq_some_iff.1 hreached
  obtain ⟨hready, hrun⟩ := Prod.mk.inj hreached
  obtain ⟨⟨service, events⟩, hrun, hseen⟩ := Option.map_eq_some_iff.1 hrun
  simp only [Prod.mk.injEq, Bool.and_eq_true, decide_eq_true_eq] at hseen
  obtain ⟨⟨hover, hclosed⟩, hinbox, hwrites⟩ := hseen
  obtain ⟨turns, hturns, -, hend, -⟩ := (service_shuts_down .builtin {} {} () hfirst hready).1
    (by decide) quitMeanwhile service events hrun
  obtain ⟨hhandled, -, hactive, honce, hlost⟩ := hend hover
  exact ⟨first, seen, service, events, hfirst, hrun, hinbox, hwrites, turns, hturns,
    hhandled.trans (by decide), hactive, honce fun hcrash => hlost hcrash none hclosed⟩

end PadScript
