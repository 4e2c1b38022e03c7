import QuotaRing.Cluster.View
import QuotaRing.Limit.Counter
import QuotaRing.Peer.Failover

/-!
# One node's part in the store of a cluster

A site is what a node needs to take part: its own table, its view of the
members, how it deals with its peers, and which of them it counts as damaged.
A command goes to the owners of its key in order.  The node asks those ahead
of itself; if none of them could be reached and its own turn comes within the
budget, it carries the command out on its own table.
-/

namespace QuotaRing.Peer

open QuotaRing.Cluster (View)
open QuotaRing.Limit (Action Datastore)
open QuotaRing.Net (Endpoint)
open QuotaRing.Store (Key Table)

/-- Where a command is carried out. -/
inductive Route where
  /-- On the table of the node itself. -/
  | here
  /-- By the first of some peers that answers, or else perhaps by the node. -/
  | among (peers : List Endpoint) (thenHere : Bool)
  deriving DecidableEq

/-- What a node needs to take part in the store of its cluster. -/
structure Site where
  table : Table
  view : View
  manner : Manner
  damage : Damage

namespace Site

/-- Where a command on a key is carried out. -/
def route (site : Site) (key : Key) : Route :=
  let owners := site.view.owners key
  match owners.findIdx? site.view.isSelf with
  | some 0 => .here
  | some place => .among (owners.take place) (place < site.manner.budget)
  | none => if owners.isEmpty then .here else .among owners false

/-- Carry a command out on the table of the node itself. -/
def runHere (site : Site) (now : Int64) (command : Command) : Outcome × Site :=
  let (outcome, table) := command.run now site.table
  (outcome, { site with table := table })

variable {σ : Type}

/--
Carry a command out among the owners of its key, with whom the node talks over
a network whose state is of type `σ`.
-/
def dispatch
    (network : Network σ)
    (now : Int64)
    (trace : String)
    (command : Command) :
    Action (Site × σ) Outcome := fun (site, world) =>
  match site.route command.key with
  | .here =>
      let (outcome, site) := site.runHere now command
      (.ok outcome, (site, world))
  | .among peers thenHere =>
      let ((answer, damage), world) :=
        ask network site.manner now trace command site.damage peers world
      let site := { site with damage := damage }
      match answer, thenHere with
      | .error (.transport _), true =>
          let (outcome, site) := site.runHere now command
          (.ok outcome, (site, world))
      | answer, _ => (answer, (site, world))

/-- The error when a peer reports an outcome of another command. -/
def unexpected {α : Type} : Action (Site × σ) α :=
  throw (.malformed .unexpectedAnswer)

/-- Read a value, which counts as absent when no owner could be reached. -/
def get
    (network : Network σ)
    (now : Int64)
    (trace : String)
    (key : Key) :
    Action (Site × σ) (Option (List UInt8)) := fun state =>
  match dispatch network now trace (.get key) state with
  | (.ok (.value value?), state) => (.ok value?, state)
  | (.ok _, state) => unexpected state
  | (.error (.transport _), state) => (.ok none, state)
  | (.error error, state) => (.error error, state)

/-- The store of the cluster as a node uses it. -/
def datastore
    (network : Network σ)
    (now : Int64)
    (trace : String) :
    Datastore (Site × σ) where
  get := get network now trace
  put key value lifetime := do
    match ← dispatch network now trace (.put key value lifetime) with
    | .stored => pure ()
    | _ => unexpected
  remove key := do
    match ← dispatch network now trace (.delete key) with
    | .removed => pure ()
    | _ => unexpected
  patch key patch lifetime := do
    match ← dispatch network now trace (.patch key patch lifetime) with
    | .patched result => pure result
    | _ => unexpected

end Site

end QuotaRing.Peer
