import QuotaRing.Proofs.Node.Cluster
import QuotaRing.Proofs.Peer.Operations

/-!
# One operation

A live node of a cluster has every command carried out by the first live owner
of its key, which may be the node itself.  The tables of the others stay, and
of the marks only those of the node that was asked may change.
-/

namespace QuotaRing

open QuotaRing.Cluster (ownersOf)
open QuotaRing.Limit (Action)
open QuotaRing.Net (Endpoint Ip)
open QuotaRing.Peer (Command Damage Outcome Site)
open QuotaRing.Store (Key Table)

namespace Fleet

/--
What a node does for an operation, when its clock reads `now` and it is seen
under the address that is told.
-/
def Operation.action
    (operation : Operation)
    (links : Links)
    (origin : Endpoint → Ip)
    (now : Int64)
    (asker : Endpoint) :
    Action (Node × Fleet) Outcome :=
  Node.onSite
    (operation.command.operate
      (Site.datastore (networkFrom (origin asker) links operation.trace) now
        operation.trace))

/--
Let a node operate on the store of its cluster when all clocks read `now`; there
is no answer if there is no such node.
-/
def operate
    (links : Links)
    (origin : Endpoint → Ip)
    (now : Int64)
    (operation : Operation) :
    StateM Fleet (Option (Except Error Outcome)) := fun fleet =>
  let fleet := fleet.atTime now
  match fleet[operation.place]? with
  | none => (none, fleet)
  | some station =>
      let (answer, fleet) := fleet.act operation.place station
        (operation.action links origin now station.address)
      (some answer, fleet)

variable
    {members : List Endpoint}
    {links : Links}
    {origin : Endpoint → Ip}
    {fleet : Fleet}

/-- What a node does that has a command dispatched. -/
theorem act_of_dispatch
    {operation : Operation}
    {now : Int64}
    {table : Table}
    {site : Site}
    {later : Fleet}
    {station : Station}
    (dispatched : Site.dispatch
        (networkFrom (origin station.address) links operation.trace) now
        operation.trace operation.command (station.node.site, fleet) =
      (.ok (operation.command.run now table).1, (site, later))) :
    fleet.act operation.place station
        (operation.action links origin now station.address) =
      (.ok (operation.command.run now table).1,
        later.set operation.place
          { station with node := { station.node with site := site } }) := by
  have operated := Command.operate_of_dispatch dispatched
  simp only [act, Operation.action, Node.onSite, operated]

/-- Carrying a command out oneself changes one's own table and marks. -/
theorem set_self
    (distinct : fleet.HasDistinctAddresses)
    {place : Nat}
    {station : Station}
    (here : fleet[place]? = some station)
    (table : Table)
    (damage : Damage) :
    fleet.set place ((station.withTable table).withDamage damage) =
      (fleet.withTableAt station.address table).withDamageAt station.address
        damage := by
  have inside := (List.getElem?_eq_some_iff.1 here).1
  have distinct' : HasDistinctAddresses
      (fleet.withTableAt station.address table) :=
    (alike_withTableAt fleet _ table).hasDistinctAddresses distinct
  have here' : (fleet.withTableAt station.address table)[place]? =
      some (station.withTable table) := by
    rw [← set_withTable distinct here, List.getElem?_set_self inside]
  have marked := set_withDamage distinct' here' damage
  rw [← set_withTable distinct here, List.set_set] at marked
  rw [marked, set_withTable distinct here]
  rfl

/-- Having a command carried out elsewhere changes that table and one's marks. -/
theorem set_other
    (distinct : fleet.HasDistinctAddresses)
    {place : Nat}
    {station : Station}
    (here : fleet[place]? = some station)
    {server : Endpoint}
    (another : station.address ≠ server)
    (table : Table)
    (damage : Damage) :
    (fleet.withTableAt server table).set place (station.withDamage damage) =
      (fleet.withTableAt server table).withDamageAt station.address damage := by
  have distinct' : HasDistinctAddresses (fleet.withTableAt server table) :=
    (alike_withTableAt fleet _ table).hasDistinctAddresses distinct
  have here' : (fleet.withTableAt server table)[place]? = some station := by
    rw [withTableAt, List.getElem?_map, here, Option.map_some, if_neg another]
  exact set_withDamage distinct' here' damage

section Act

variable
    {operation : Operation}
    {station : Station}
    {ahead rest : List Endpoint}
    (cluster : fleet.IsCluster members links origin)
    (marked : fleet.IsMarkedRightly links)
    (now : Int64)
    (here : fleet[operation.place]? = some station)
    (live : fleet.isLive links station.address = true)
    (fewer : ahead.length < station.node.site.manner.budget)
    (dead : ∀ peer ∈ ahead, fleet.isLive links peer = false)
    (askable : ∀ peer ∈ ahead, (Peer.originOf? peer).isSome = true)
    (traced : Http.IsFieldText operation.trace)

include cluster here dead askable traced in
/-- The owners ahead of the first live one cannot be reached. -/
theorem silent_ahead :
    ∀ peer ∈ ahead,
      Peer.IsSilent
        (networkFrom (origin station.address) links operation.trace)
        station.node.site.manner operation.trace operation.command fleet
        peer :=
  fun peer member => isSilent_of_not_isLive (askable peer member)
    (cluster.named station (List.mem_of_getElem? here)).1 traced
    (dead peer member)

include live dead in
theorem address_notMem : station.address ∉ ahead := by
  intro member
  rw [dead station.address member] at live
  cases live

include cluster marked here live fewer dead askable traced

/-- A node that is the first live owner carries the command out itself. -/
theorem act_of_self
    (owners : ownersOf members operation.command.key =
      ahead ++ station.address :: rest) :
    ∃ damage : Damage,
      damage.MarksOnly (fun peer => fleet.isLive links peer = false) ∧
      fleet.act operation.place station
          (operation.action links origin now station.address) =
        (.ok (operation.command.run now station.node.site.table).1,
          (fleet.withTableAt station.address
            (operation.command.run now
              station.node.site.table).2).withDamageAt station.address
                damage) := by
  have among := List.mem_of_getElem? here
  have owns := (cluster.knows station among).owners operation.command.key
  rcases Site.dispatch_of_self now (owns.trans owners)
    (address_notMem live dead) fewer dead
    (silent_ahead cluster here dead askable traced) (marked station among) with
    ⟨damage, marks, dispatched⟩
  refine ⟨damage, marks, ?_⟩
  have changed := set_self cluster.distinct here
    (operation.command.run now station.node.site.table).2 damage
  rw [act_of_dispatch dispatched, ← changed]
  rfl

/-- Any other node has the command carried out by the first live owner. -/
theorem act_of_other
    {holder : Station}
    (owners : ownersOf members operation.command.key =
      ahead ++ holder.address :: rest)
    (another : station.address ≠ holder.address)
    (found : fleet.find? (·.listensAt holder.address) = some holder)
    (serves : fleet.isLive links holder.address = true)
    (clock : holder.now = now)
    (named : (Peer.originOf? holder.address).isSome = true)
    (travels : operation.command.Travels holder.node.maxObject) :
    ∃ damage : Damage,
      damage.MarksOnly (fun peer => fleet.isLive links peer = false) ∧
      fleet.act operation.place station
          (operation.action links origin now station.address) =
        (.ok (operation.command.run now holder.node.site.table).1,
          (fleet.withTableAt holder.address
            (operation.command.run now
              holder.node.site.table).2).withDamageAt station.address
                damage) := by
  have among := List.mem_of_getElem? here
  have held := List.mem_of_find?_eq_some found
  have owns := (cluster.knows station among).owners operation.command.key
  have isUp : ¬ fleet.isLive links holder.address = false := by
    rw [serves]
    exact Bool.true_eq_false.mp
  have answers : Peer.attempt
      (networkFrom (origin station.address) links operation.trace)
      station.node.site.manner operation.trace operation.command
      holder.address fleet = _ :=
    attempt_of_isLive cluster.distinct named (cluster.named station among).1
      (cluster.named station among).2 traced
      (Bool.and_eq_true_iff.1 serves).1 found travels
      (cluster.addressable holder held)
      (cluster.admits holder held station among serves live)
  rw [clock] at answers
  rcases Site.dispatch_of_other now (owns.trans owners)
    (address_notMem live dead) another fewer dead isUp
    (silent_ahead cluster here dead askable traced) answers
    (marked station among) with
    ⟨damage, marks, dispatched⟩
  refine ⟨damage, marks, ?_⟩
  have changed := set_other cluster.distinct here another
    (operation.command.run now holder.node.site.table).2 damage
  rw [act_of_dispatch dispatched, ← changed]
  rfl

end Act

/--
A node of a cluster whose clocks agree has an operation carried out by the
first live owner, and afterwards may have changed its marks.
-/
theorem act_eq
    (cluster : fleet.IsCluster members links origin)
    (reachable : ∀ member ∈ members, (Peer.originOf? member).isSome = true)
    (marked : fleet.IsMarkedRightly links)
    {now : Int64}
    (clocks : ∀ station ∈ fleet, station.now = now)
    {operation : Operation}
    {station : Station}
    (here : fleet[operation.place]? = some station)
    (live : fleet.isLive links station.address = true)
    (fewer : ((ownersOf members operation.command.key).takeWhile
      (!fleet.isLive links ·)).length < station.node.site.manner.budget)
    (traced : Http.IsFieldText operation.trace)
    (travels : ∀ other ∈ fleet,
      operation.command.Travels other.node.maxObject) :
    ∃ holder ∈ fleet,
      server? members links fleet operation.command.key =
        some holder.address ∧
      ∃ damage : Damage,
        damage.MarksOnly (fun peer => fleet.isLive links peer = false) ∧
        fleet.act operation.place station
            (operation.action links origin now station.address) =
          (.ok (operation.command.run now holder.node.site.table).1,
            (fleet.withTableAt holder.address
              (operation.command.run now
                holder.node.site.table).2).withDamageAt station.address
                  damage) := by
  have among := List.mem_of_getElem? here
  rcases cluster.exists_server among live fewer with
    ⟨ahead, server, rest, first, owners, serves, dead, few⟩
  rcases exists_of_isLive serves with ⟨holder, found, held, rfl, _⟩
  have askable : ∀ peer ∈ ahead ++ holder.address :: rest,
      (Peer.originOf? peer).isSome = true := by
    intro peer member
    rw [← owners] at member
    exact reachable peer (Cluster.Ring.mem_of_mem_owners member)
  have ahead : ∀ peer ∈ ahead, (Peer.originOf? peer).isSome = true :=
    fun peer member => askable peer (List.mem_append_left _ member)
  refine ⟨holder, held, first, ?_⟩
  by_cases self : station.address = holder.address
  · have same := eq_of_address cluster.distinct among held self
    subst same
    exact act_of_self cluster marked now here live few dead ahead traced owners
  · exact act_of_other cluster marked now here live few dead ahead traced owners
      self found serves (clocks holder held)
      (askable _ (List.mem_append_right _ List.mem_cons_self))
      (travels holder held)

end Fleet

end QuotaRing
