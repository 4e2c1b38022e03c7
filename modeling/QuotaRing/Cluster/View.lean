import QuotaRing.Cluster.Ring
import QuotaRing.Store.Key

/-!
# A node's view of its cluster

A view is the address of the local node, the ring of the members, to which the
local node always belongs, and a version that grows with every change.
-/

namespace QuotaRing.Cluster

open QuotaRing.Net (Endpoint)
open QuotaRing.Store (Key)

/-- What a node knows of the cluster. -/
structure View where
  self : Endpoint
  ring : Ring
  version : UInt64

namespace View

/-- The members of a list, with the local node among them. -/
def withSelf (self : Endpoint) (listed : List Endpoint) : List Endpoint :=
  if listed.contains self then listed else listed ++ [self]

/-- The view of a node to which the listed members are known. -/
def ofMembers
    (self : Endpoint)
    (listed : List Endpoint)
    (version : UInt64) :
    View where
  self := self
  ring := Ring.ofMembers (withSelf self listed) defaultShare
  version := version

def alone (self : Endpoint) : View :=
  ofMembers self [] 0

def members (view : View) : List Endpoint :=
  view.ring.members

/-- The next view of the same node, with other members. -/
def update (view : View) (listed : List Endpoint) : View :=
  ofMembers view.self listed (view.version + 1)

/-- The members in the order in which they are asked for a key. -/
def owners (view : View) (key : Key) : List Endpoint :=
  view.ring.owners key.bytes

/-- The member that is asked first for a key. -/
def primary (view : View) (key : Key) : Endpoint :=
  (view.ring.primary? key.bytes).getD view.self

/-- Whether an address is that of the local node. -/
def isSelf (view : View) (address : Endpoint) : Bool :=
  address == view.self

end View

end QuotaRing.Cluster
