import QuotaRing.Cluster.Access
import QuotaRing.Error
import QuotaRing.Peer.Failover

/-!
# Settings of a node

What whoever runs a node can choose, with the usual values, and what follows
from the choices: the address the node is known by and how it deals with its
peers.
-/

namespace QuotaRing.Node

open QuotaRing.Net (Endpoint Ip)
open QuotaRing.Peer (Manner)

/-- The settings of a node. -/
structure Settings where
  /-- The address to listen on, as it is written. -/
  listenAddress : String := "0.0.0.0"
  listenPort : UInt16 := 8410
  /-- The address under which peers reach the node, if it is given. -/
  nodeAddress? : Option Endpoint := none
  members : List Endpoint := []
  /-- The hosts that may use the store of the node. -/
  allowedHosts : List String := []
  allowAllHosts : Bool := false
  /-- The name under which the node asks its peers, if it is given. -/
  hostKey? : Option String := none
  /-- How many milliseconds one attempt may take. -/
  attemptMillis : UInt64 := 1000
  maxAttempts : Nat := 3
  /-- How many seconds a peer counts as damaged. -/
  cooldownSeconds : UInt64 := 30
  /-- The most bytes of an object. -/
  maxObject : Nat := Peer.defaultMaxObject
  /-- How many seconds lie between two sweeps. -/
  sweepSeconds : UInt64 := 10
  /-- The file that holds the configuration of limits, if there is one. -/
  limitsFile? : Option String := none

namespace Settings

def listenSocket (settings : Settings) : Except Error Endpoint :=
  match Ip.ofText? settings.listenAddress with
  | some ip => .ok (.ofIp ip settings.listenPort)
  | none =>
      .error (.configuration ("Invalid listen address " ++
        settings.listenAddress ++ ": invalid IP address syntax"))

/--
The address by which a node is known to its peers.  A node that listens on
every address of its host is known by the loopback address.
-/
def nodeAddress (settings : Settings) : Except Error Endpoint :=
  match settings.nodeAddress? with
  | some address => .ok address
  | none => do
      let socket ← settings.listenSocket
      if socket.ip.isUnspecified then .ok (.ofIp .loopback socket.port)
      else .ok socket

/-- How a node deals with its peers; a name is made up unless one is given. -/
def manner (settings : Settings) (madeUp : String) : Manner where
  attemptTime := Span.ofMillis settings.attemptMillis.toNat
  maxAttempts := max 1 settings.maxAttempts
  cooldown := Span.ofSeconds settings.cooldownSeconds
  hostKey := settings.hostKey?.getD madeUp

/-- The time between two sweeps, a second at least. -/
def sweepPeriod (settings : Settings) : Span :=
  Span.ofSeconds (max 1 settings.sweepSeconds)

end Settings

end QuotaRing.Node
