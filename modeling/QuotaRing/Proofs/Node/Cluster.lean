import QuotaRing.Proofs.Cluster.Walk
import QuotaRing.Proofs.Node.Exchanges

/-!
# Nodes that form a cluster

The nodes of a cluster know the same members, whatever lists they were given.
They therefore agree on the owners of every key and, as they reach the same
nodes, on the first of them that is live.  What a cluster is does not depend
on what its nodes store, whom they count as damaged or what their clocks read.
-/

namespace QuotaRing

open QuotaRing.Cluster (Ring View)
open QuotaRing.Http (IsFieldText)
open QuotaRing.Net (Endpoint Ip)
open QuotaRing.Peer (Command)
open QuotaRing.Store (Key Table)

/-- The members in the order in which they are asked for a key. -/
def Cluster.ownersOf (members : List Endpoint) (key : Key) : List Endpoint :=
  (Ring.ofMembers members defaultShare).owners key.bytes

open QuotaRing.Cluster (ownersOf)

/--
Whether the members that a node knows, itself among them, are the given ones,
in whatever order it was told of them.
-/
def Station.Knows (station : Station) (members : List Endpoint) : Prop :=
  ∃ listed version,
    station.node.site.view = View.ofMembers station.address listed version ∧
    ∀ member,
      member ∈ View.withSelf station.address listed ↔ member ∈ members

namespace Station.Knows

variable
    {station : Station}
    {members : List Endpoint}
    (knows : station.Knows members)

include knows

theorem owners (key : Key) :
    station.node.site.view.owners key = ownersOf members key := by
  rcases knows with ⟨listed, version, view, same⟩
  rw [View.owners, view, View.ofMembers, ownersOf,
    Cluster.Ring.ofMembers_congr same]

theorem self_mem : station.address ∈ members := by
  rcases knows with ⟨listed, version, _, same⟩
  rw [← same, View.withSelf]
  split
  case isTrue known => exact List.contains_iff_mem.1 known
  case isFalse => exact List.mem_append_right _ List.mem_cons_self

end Station.Knows

namespace Fleet

/--
What makes the nodes of a fleet one cluster: they know the same members, each
of which keeps a position, and the live ones admit each other under the
addresses by which they are seen.
-/
structure IsCluster
    (members : List Endpoint)
    (links : Links)
    (origin : Endpoint → Ip)
    (fleet : Fleet) :
    Prop where
  distinct : fleet.HasDistinctAddresses
  knows : ∀ station ∈ fleet, station.Knows members
  placed : ∀ member ∈ members,
    ∃ spot ∈ (Ring.ofMembers members Cluster.defaultShare).spots,
      spot.holder = member
  admits : ∀ station ∈ fleet, ∀ caller ∈ fleet,
    fleet.isLive links station.address = true →
    fleet.isLive links caller.address = true →
    station.node.access.admits (origin caller.address) = true
  named : ∀ station ∈ fleet,
    IsFieldText station.node.site.manner.hostKey ∧
    Text.isBlankText station.node.site.manner.hostKey = false
  addressable : ∀ station ∈ fleet,
    station.node.maxObject < Wire.capacity Wire.Width.eight.bytes

/-- Whether nodes count only those as damaged that are not live. -/
def IsMarkedRightly (links : Links) (fleet : Fleet) : Prop :=
  ∀ station ∈ fleet, station.node.site.damage.MarksOnly
    fun peer => fleet.isLive links peer = false

/-- The first owner of a key that is live. -/
def server?
    (members : List Endpoint)
    (links : Links)
    (fleet : Fleet)
    (key : Key) :
    Option Endpoint :=
  (ownersOf members key).find? (fleet.isLive links)

/-- An operation that a node of a fleet is asked for. -/
structure Operation where
  /-- The place of the node. -/
  place : Nat
  /-- The name by which its requests are traced. -/
  trace : String
  command : Command

/--
Whether an operation is one that a cluster can carry out: the node is live,
may ask for the command as often as there are owners ahead of the first live
one, and every node can be sent the command.
-/
structure Operation.Fits
    (operation : Operation)
    (members : List Endpoint)
    (links : Links)
    (fleet : Fleet) :
    Prop where
  asked : ∃ station,
    fleet[operation.place]? = some station ∧
    fleet.isLive links station.address = true ∧
    ((ownersOf members operation.command.key).takeWhile
      (!fleet.isLive links ·)).length < station.node.site.manner.budget
  traced : IsFieldText operation.trace
  travels : ∀ station ∈ fleet,
    operation.command.Travels station.node.maxObject

variable
    {members : List Endpoint}
    {links : Links}
    {origin : Endpoint → Ip}
    {fleet : Fleet}

/-! ## What does not matter -/

section Alike

variable
    {after : Fleet}
    (alike : fleet.Alike after)

include alike

theorem Alike.server? (key : Key) :
    Fleet.server? members links after key =
      Fleet.server? members links fleet key := by
  unfold Fleet.server?
  rw [alike.isLive]

theorem IsCluster.of_alike
    (cluster : fleet.IsCluster members links origin) :
    IsCluster members links origin after := by
  have live := alike.isLive links
  have distinct := alike.hasDistinctAddresses cluster.distinct
  rcases alike with ⟨change, resembles, rfl⟩
  refine ⟨distinct, ?knows, cluster.placed, ?admits, ?named, ?addressable⟩
  case knows =>
    intro _ member
    rcases List.mem_map.1 member with ⟨station, among, rfl⟩
    rw [Station.Knows,
      ← (resembles station).address, ← (resembles station).view]
    exact cluster.knows station among
  case admits =>
    intro _ member _ member'
    rcases List.mem_map.1 member with ⟨station, among, rfl⟩
    rcases List.mem_map.1 member' with ⟨caller, among', rfl⟩
    rw [live, ← (resembles station).address, ← (resembles station).access,
      ← (resembles caller).address]
    exact cluster.admits station among caller among'
  case named =>
    intro _ member
    rcases List.mem_map.1 member with ⟨station, among, rfl⟩
    rw [← (resembles station).manner]
    exact cluster.named station among
  case addressable =>
    intro _ member
    rcases List.mem_map.1 member with ⟨station, among, rfl⟩
    rw [← (resembles station).maxObject]
    exact cluster.addressable station among

theorem Operation.Fits.of_alike
    {operation : Operation}
    (fits : operation.Fits members links fleet) :
    operation.Fits members links after := by
  have live := alike.isLive links
  rcases alike with ⟨change, resembles, rfl⟩
  refine ⟨?asked, fits.traced, ?travels⟩
  case asked =>
    rcases fits.asked with ⟨station, here, lives, fewer⟩
    refine ⟨change station, ?_, ?_, ?_⟩
    · rw [List.getElem?_map, here, Option.map_some]
    · rw [live, ← (resembles station).address]
      exact lives
    · rw [live, ← (resembles station).manner]
      exact fewer
  case travels =>
    intro _ member
    rcases List.mem_map.1 member with ⟨station, among, rfl⟩
    rw [← (resembles station).maxObject]
    exact fits.travels station among

end Alike

/-! ## The first live owner -/

/-- What is known of the owners of a key at a node that may ask long enough. -/
theorem IsCluster.exists_server
    (cluster : fleet.IsCluster members links origin)
    {station : Station}
    (among : station ∈ fleet)
    (live : fleet.isLive links station.address = true)
    {key : Key}
    {budget : Nat}
    (fewer : ((ownersOf members key).takeWhile
      (!fleet.isLive links ·)).length < budget) :
    ∃ ahead server rest,
      server? members links fleet key = some server ∧
      ownersOf members key = ahead ++ server :: rest ∧
      fleet.isLive links server = true ∧
      (∀ peer ∈ ahead, fleet.isLive links peer = false) ∧
      ahead.length < budget := by
  have member := (cluster.knows station among).self_mem
  have owns : station.address ∈ ownersOf members key :=
    Ring.mem_owners_of_holds member (cluster.placed _ member) key.bytes
  cases found : server? members links fleet key with
  | none => exact absurd live (List.find?_eq_none.1 found _ owns)
  | some server =>
      rcases List.find?_eq_some_iff_append.1 found with
        ⟨serves, ahead, rest, owners, dead⟩
      have allDead : ∀ peer ∈ ahead, fleet.isLive links peer = false :=
        fun peer member => by simpa using dead peer member
      refine ⟨ahead, server, rest, rfl, owners, serves, allDead, ?_⟩
      have taken : (ownersOf members key).takeWhile (!fleet.isLive links ·) =
          ahead := by
        rw [owners, List.takeWhile_append_of_pos dead,
          List.takeWhile_cons_of_neg, List.append_nil]
        rw [serves]
        exact Bool.false_ne_true
      rw [← taken]
      exact fewer

end Fleet

end QuotaRing
