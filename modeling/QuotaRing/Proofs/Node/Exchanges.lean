import Mathlib.Data.List.Nodup
import QuotaRing.Proofs.Peer.Asking
import QuotaRing.Proofs.Peer.Delivery

/-!
# Exchanges within a fleet

A live node is one that listens and to which requests get through.  A request
to a live node is answered, and changes the table of that node alone; a request
to any other address fails and changes nothing.
-/

namespace QuotaRing

open QuotaRing.Http (IsFieldText)
open QuotaRing.Net (Endpoint Ip)
open QuotaRing.Peer (Command Damage Manner)
open QuotaRing.Store (Table)

namespace Station

/-- The address of a node. -/
def address (station : Station) : Endpoint :=
  station.node.site.view.self

/-- The station whose node counts other peers as damaged. -/
def withDamage (station : Station) (damage : Damage) : Station :=
  { station with
    node := { station.node with
      site := { station.node.site with damage := damage } } }

/-- Whether two stations may differ in clock, table and marks alone. -/
structure Resembles (left right : Station) : Prop where
  view : left.node.site.view = right.node.site.view
  manner : left.node.site.manner = right.node.site.manner
  access : left.node.access = right.node.access
  maxObject : left.node.maxObject = right.node.maxObject
  isListening : left.isListening = right.isListening

theorem Resembles.refl (station : Station) : station.Resembles station :=
  ⟨rfl, rfl, rfl, rfl, rfl⟩

theorem Resembles.trans
    {first second third : Station}
    (alike : first.Resembles second)
    (alike' : second.Resembles third) :
    first.Resembles third :=
  ⟨alike.view.trans alike'.view, alike.manner.trans alike'.manner,
    alike.access.trans alike'.access, alike.maxObject.trans alike'.maxObject,
    alike.isListening.trans alike'.isListening⟩

theorem Resembles.address
    {left right : Station}
    (alike : left.Resembles right) :
    left.address = right.address :=
  congrArg Cluster.View.self alike.view

theorem resembles_withTable
    (address : Endpoint)
    (table : Table)
    (station : Station) :
    station.Resembles
      (if station.address = address then station.withTable table
        else station) := by
  split
  · exact ⟨rfl, rfl, rfl, rfl, rfl⟩
  · exact .refl station

theorem resembles_withDamage
    (address : Endpoint)
    (damage : Damage)
    (station : Station) :
    station.Resembles
      (if station.address = address then station.withDamage damage
        else station) := by
  split
  · exact ⟨rfl, rfl, rfl, rfl, rfl⟩
  · exact .refl station

theorem resembles_atTime (now : Int64) (station : Station) :
    station.Resembles { station with now := now } :=
  ⟨rfl, rfl, rfl, rfl, rfl⟩

theorem address_of_listensAt
    {station : Station}
    {address : Endpoint}
    (listens : station.listensAt address = true) :
    station.address = address :=
  eq_of_beq (Bool.and_eq_true_iff.1 listens).2

end Station

namespace Fleet

/-- Whether requests to an address are answered. -/
def isLive (links : Links) (fleet : Fleet) (address : Endpoint) : Bool :=
  links address && fleet.any (·.listensAt address)

/-- The fleet whose clocks all read the same. -/
def atTime (fleet : Fleet) (now : Int64) : Fleet :=
  fleet.map fun station => { station with now := now }

/-- The fleet in which the node at an address has another table. -/
def withTableAt (fleet : Fleet) (address : Endpoint) (table : Table) : Fleet :=
  fleet.map fun station =>
    if station.address = address then station.withTable table else station

/-- The fleet in which the node at an address counts other peers as damaged. -/
def withDamageAt (fleet : Fleet) (address : Endpoint) (damage : Damage) : Fleet :=
  fleet.map fun station =>
    if station.address = address then station.withDamage damage else station

/-- Whether no two nodes have the same address. -/
def HasDistinctAddresses (fleet : Fleet) : Prop :=
  (fleet.map Station.address).Nodup

instance (fleet : Fleet) : Decidable fleet.HasDistinctAddresses :=
  inferInstanceAs (Decidable (List.Nodup _))

/-- Whether two fleets differ in the clocks, tables and marks of nodes alone. -/
def Alike (before after : Fleet) : Prop :=
  ∃ change : Station → Station,
    (∀ station : Station, station.Resembles (change station)) ∧
    after = before.map change

/-! ## Changing nodes -/

theorem alike_atTime (fleet : Fleet) (now : Int64) :
    fleet.Alike (fleet.atTime now) :=
  ⟨_, Station.resembles_atTime now, rfl⟩

theorem alike_withTableAt
    (fleet : Fleet)
    (address : Endpoint)
    (table : Table) :
    fleet.Alike (fleet.withTableAt address table) :=
  ⟨_, Station.resembles_withTable address table, rfl⟩

theorem alike_withDamageAt
    (fleet : Fleet)
    (address : Endpoint)
    (damage : Damage) :
    fleet.Alike (fleet.withDamageAt address damage) :=
  ⟨_, Station.resembles_withDamage address damage, rfl⟩

namespace Alike

variable {before after : Fleet}

theorem trans
    {later : Fleet}
    (alike : before.Alike after)
    (alike' : after.Alike later) :
    before.Alike later := by
  rcases alike with ⟨change, resembles, rfl⟩
  rcases alike' with ⟨change', resembles', rfl⟩
  refine ⟨change' ∘ change, ?_, List.map_map⟩
  intro station
  exact (resembles station).trans (resembles' (change station))

theorem isLive
    (alike : before.Alike after)
    (links : Links) :
    isLive links after = isLive links before := by
  rcases alike with ⟨change, resembles, rfl⟩
  funext address
  rw [Fleet.isLive, List.any_map]
  congr 2
  funext station
  simp only [Function.comp_apply, Station.listensAt, (resembles station).view,
    (resembles station).isListening]

theorem hasDistinctAddresses
    (alike : before.Alike after)
    (distinct : before.HasDistinctAddresses) :
    after.HasDistinctAddresses := by
  rcases alike with ⟨change, resembles, rfl⟩
  rw [HasDistinctAddresses, List.map_map]
  have same : Station.address ∘ change = Station.address := by
    funext station
    exact (resembles station).address.symm
  rw [same]
  exact distinct

end Alike

variable
    {fleet : Fleet}
    {links : Links}

/-- Nodes with the same address are the same node. -/
theorem eq_of_address
    (distinct : fleet.HasDistinctAddresses)
    {left right : Station}
    (here : left ∈ fleet)
    (there : right ∈ fleet)
    (same : left.address = right.address) :
    left = right :=
  List.inj_on_of_nodup_map distinct here there same

/-- Replacing the node at a place is replacing the node with its address. -/
theorem set_eq_map
    (distinct : fleet.HasDistinctAddresses)
    {place : Nat}
    {station : Station}
    (here : fleet[place]? = some station)
    (change : Station → Station) :
    fleet.set place (change station) =
      fleet.map fun other =>
        if other.address = station.address then change other else other := by
  apply List.ext_getElem?
  intro index
  rw [List.getElem?_map]
  by_cases same : place = index
  · subst same
    rcases List.getElem?_eq_some_iff.1 here with ⟨inside, _⟩
    rw [List.getElem?_set_self inside, here, Option.map_some, if_pos rfl]
  · rw [List.getElem?_set_ne same]
    cases found : fleet[index]? with
    | none => rfl
    | some other =>
        have another : other.address ≠ station.address := by
          intro equal
          have inside : place < (fleet.map Station.address).length := by
            rw [List.length_map]
            exact (List.getElem?_eq_some_iff.1 here).1
          apply same
          apply (List.getElem?_inj inside distinct).1
          rw [List.getElem?_map, List.getElem?_map, here, found,
            Option.map_some, Option.map_some, equal]
        rw [Option.map_some, if_neg another]

theorem set_withTable
    (distinct : fleet.HasDistinctAddresses)
    {place : Nat}
    {station : Station}
    (here : fleet[place]? = some station)
    (table : Table) :
    fleet.set place (station.withTable table) =
      fleet.withTableAt station.address table :=
  set_eq_map distinct here (·.withTable table)

theorem set_withDamage
    (distinct : fleet.HasDistinctAddresses)
    {place : Nat}
    {station : Station}
    (here : fleet[place]? = some station)
    (damage : Damage) :
    fleet.set place (station.withDamage damage) =
      fleet.withDamageAt station.address damage :=
  set_eq_map distinct here (·.withDamage damage)

/-! ## Sending requests -/

theorem listensAt_of_find?
    {address : Endpoint}
    {station : Station}
    (found : fleet.find? (·.listensAt address) = some station) :
    station.listensAt address = true :=
  List.find?_some (p := fun other : Station => other.listensAt address) found

theorem exists_of_isLive
    {address : Endpoint}
    (live : fleet.isLive links address = true) :
    ∃ station,
      fleet.find? (·.listensAt address) = some station ∧
      station ∈ fleet ∧ station.address = address ∧ links address = true := by
  rcases Bool.and_eq_true_iff.1 live with ⟨linked, listens⟩
  cases found : fleet.find? (·.listensAt address) with
  | none =>
      rcases List.any_eq_true.1 listens with ⟨station, member, its⟩
      exact absurd its (List.find?_eq_none.1 found station member)
  | some station =>
      exact ⟨station, rfl, List.mem_of_find?_eq_some found,
        Station.address_of_listensAt (listensAt_of_find? found), linked⟩

variable
    {caller : Ip}
    {trace : String}
    {manner : Manner}
    {command : Command}
    {peer : Endpoint}

/-- Nothing comes of a request to a node that is not live. -/
theorem isSilent_of_not_isLive
    (reachable : (Peer.originOf? peer).isSome = true)
    (named : IsFieldText manner.hostKey)
    (traced : IsFieldText trace)
    (dead : fleet.isLive links peer = false) :
    Peer.IsSilent (networkFrom caller links trace) manner trace command fleet
      peer := by
  have fails : networkFrom caller links trace
      (command.outgoing peer manner.hostKey trace) fleet = (.failed, fleet) := by
    rw [networkFrom]
    cases found : fleet.find?
        (·.listensAt (command.outgoing peer manner.hostKey trace).peer) with
    | none => rfl
    | some station =>
        have listens : fleet.any (·.listensAt peer) = true :=
          List.any_eq_true.2 ⟨station, List.mem_of_find?_eq_some found,
            listensAt_of_find? found⟩
        rw [isLive, listens, Bool.and_true] at dead
        simp only [Command.outgoing, dead]
  rw [Peer.IsSilent, Peer.attempt,
    Peer.request_eq reachable command named traced]
  simp only [bind, StateT.bind, fails]
  rfl

/-- A live node that admits the caller answers with what the command comes to. -/
theorem attempt_of_isLive
    (distinct : fleet.HasDistinctAddresses)
    (reachable : (Peer.originOf? peer).isSome = true)
    (named : IsFieldText manner.hostKey)
    (nonblank : Text.isBlankText manner.hostKey = false)
    (traced : IsFieldText trace)
    (linked : links peer = true)
    {station : Station}
    (found : fleet.find? (·.listensAt peer) = some station)
    (travels : command.Travels station.node.maxObject)
    (addressable : station.node.maxObject <
      Wire.capacity Wire.Width.eight.bytes)
    (admits : station.node.access.admits caller = true) :
    Peer.attempt (networkFrom caller links trace) manner trace command peer
        fleet =
      (some (.ok (command.run station.now station.node.site.table).1),
        fleet.withTableAt peer
          (command.run station.now station.node.site.table).2) := by
  have here : fleet[fleet.findIdx (·.listensAt peer)]? = some station := by
    rw [← List.find?_eq_getElem?_findIdx]
    exact found
  have its : station.address = peer :=
    Station.address_of_listensAt (listensAt_of_find? found)
  have sent : (command.outgoing peer manner.hostKey trace).peer = peer := rfl
  have served : station.serve trace caller
      (command.outgoing peer manner.hostKey trace).received =
      ((command.run station.now station.node.site.table).1.response,
        station.withTable
          (command.run station.now station.node.site.table).2) :=
    station.serve_eq named nonblank travels addressable admits rfl rfl rfl rfl
      trace
  have delivered : networkFrom caller links trace
      (command.outgoing peer manner.hostKey trace) fleet =
      (.answered
        (command.run station.now station.node.site.table).1.response.status
        (command.run station.now
          station.node.site.table).1.response.content.toBytes,
        fleet.withTableAt peer
          (command.run station.now station.node.site.table).2) := by
    simp only [networkFrom, sent, found, linked, served]
    rw [set_withTable distinct here, its]
  rw [Peer.attempt, Peer.request_eq reachable command named traced]
  simp only [bind, StateT.bind, delivered, Peer.outcomeOf_response]
  rfl

end Fleet

end QuotaRing
