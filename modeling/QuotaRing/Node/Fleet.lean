import QuotaRing.Service.Router

/-!
# Nodes that reach each other

A fleet is a list of nodes, each with a clock of its own.  A request to an
address is answered by the first node that listens there, provided that
requests get through to the address at all.
-/

namespace QuotaRing

open QuotaRing.Net (Endpoint Ip)
open QuotaRing.Peer (Network Outgoing)

/-- A network in which no request gets through. -/
def Peer.silence {σ : Type} : Network σ := fun _ => pure .failed

/-- A node of a fleet. -/
structure Station where
  node : Node
  /-- What its clock reads. -/
  now : Int64
  isListening : Bool

abbrev Fleet : Type :=
  List Station

/-- The addresses to which requests get through. -/
abbrev Links : Type :=
  Endpoint → Bool

namespace Station

def listensAt (station : Station) (address : Endpoint) : Bool :=
  station.isListening && station.node.site.view.self == address

/-- Answer a request of a peer, which never needs another peer. -/
def serve
    (station : Station)
    (trace : String)
    (caller : Ip)
    (request : Http.Request) :
    Http.Response × Station :=
  let (response, (node, _)) :=
    Service.answer (Peer.silence (σ := Unit)) station.now trace caller request
      (station.node, ())
  (response, { station with node := node })

end Station

namespace Fleet

/--
The network by which a node reaches the others of a fleet, to which its
requests seem to come from the given address.
-/
def networkFrom (caller : Ip) (links : Links) (trace : String) : Network Fleet :=
  fun outgoing fleet =>
    match fleet.find? (·.listensAt outgoing.peer), links outgoing.peer with
    | some station, true =>
        let (response, served) :=
          station.serve trace caller outgoing.received
        let place := fleet.findIdx (·.listensAt outgoing.peer)
        (.answered response.status response.content.toBytes,
          fleet.set place served)
    | _, _ => (.failed, fleet)

/-- The network of nodes that all run on one host. -/
def network (links : Links) (trace : String) : Network Fleet :=
  networkFrom .loopback links trace

/-- Let the node at a place do something while the others are at hand. -/
def act
    {α : Type}
    (fleet : Fleet)
    (place : Nat)
    (station : Station)
    (action : StateM (Node × Fleet) α) :
    α × Fleet :=
  let (result, (node, fleet)) := action (station.node, fleet)
  (result, fleet.set place { station with node := node })

end Fleet

end QuotaRing
