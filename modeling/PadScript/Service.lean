import PadScript.Host

/-!
# A host behind a channel

Requests are sent on a channel and handled in the order sent. The service ends
after the first request to quit, or when nobody can send any more and everything
sent has been handled; then it quits by itself.
-/

namespace PadScript

structure Service (σ : Type) where
  host : Host σ
  /-- Sent, but not yet received. -/
  inbox : List Request := []
  connected : Bool := true
  quitting : Bool := false

namespace Service

variable {σ : Type}

inductive Move
  | send (request : Request)
  /-- The last sender is gone. -/
  | hangUp
  /-- The host receives the next request, or learns that none will come. -/
  | receive (found : Except Fault String)
  /-- Nothing has come for a while. -/
  | timeOut
  | turn (turn : Turn)

def isOver (service : Service σ) : Bool := service.quitting && service.host.isReady

def turn (service : Service σ) (turn : Turn) : Option (Service σ × List HostEvent) := do
  let (host, events) ← service.host.step turn
  some ({ service with host }, events)

def receive (service : Service σ) (found : Except Fault String) :
    Option (Service σ × List HostEvent) :=
  match service.inbox with
  | request :: rest =>
    let quitting := decide (request = Request.quit)
    { service with inbox := rest, quitting }.turn (.request request found)
  | [] =>
    if service.connected then none
    else { service with quitting := true }.turn (.request .quit found)

def step (service : Service σ) : Move → Option (Service σ × List HostEvent)
  | .send request =>
    if service.connected then some ({ service with inbox := service.inbox ++ [request] }, [])
    else none
  | .hangUp => some ({ service with connected := false }, [])
  | .receive found => if service.quitting then none else service.receive found
  | .timeOut =>
    if service.quitting || !service.inbox.isEmpty || !service.connected then none
    else service.turn .collect
  | .turn turn =>
    match turn with
    | .request .. | .compile .. | .collect => none
    | .host .. | .thread .. | .crash | .stop => service.turn turn

end Service

end PadScript
