import QuotaRing.Proofs.Node.Operating
import QuotaRing.Proofs.Run

/-!
# A cluster as one store

Operations are issued one after another at nodes of a cluster that are live.
Each of them is carried out once, on the table of the first live owner of its
key, and the cluster answers as one store would.  The invariant that carries
the induction: under every key the table of its first live owner has what the
one store has, and nodes count only those as damaged that are not live.
-/

namespace QuotaRing

open QuotaRing.Cluster (Ring defaultShare ownersOf)
open QuotaRing.Limit (Datastore)
open QuotaRing.Net (Endpoint Ip)
open QuotaRing.Peer (Command Damage Outcome)
open QuotaRing.Store (Key Table)

namespace Fleet

variable
    {members : List Endpoint}
    {links : Links}
    {origin : Endpoint → Ip}
    {fleet : Fleet}

/-! ## The invariant -/

/-- Whether the nodes of a cluster serve, between them, what one table holds. -/
structure Serves
    (members : List Endpoint)
    (links : Links)
    (origin : Endpoint → Ip)
    (fleet : Fleet)
    (table : Table) :
    Prop where
  cluster : fleet.IsCluster members links origin
  reachable : ∀ member ∈ members, (Peer.originOf? member).isSome = true
  marked : fleet.IsMarkedRightly links
  agrees : ∀ key, ∀ station ∈ fleet,
    server? members links fleet key = some station.address →
    station.node.site.table.find? key = table.find? key

namespace Serves

variable {table : Table}

theorem of_alike
    (serves : Serves members links origin fleet table)
    {change : Station → Station}
    (alike : ∀ station : Station, station.Resembles (change station))
    {table' : Table}
    (marked : ∀ station ∈ fleet, (change station).node.site.damage.MarksOnly
      fun peer => fleet.isLive links peer = false)
    (agrees : ∀ key, ∀ station ∈ fleet,
      server? members links fleet key = some station.address →
      (change station).node.site.table.find? key = table'.find? key) :
    Serves members links origin (fleet.map change) table' where
  cluster := serves.cluster.of_alike ⟨change, alike, rfl⟩
  reachable := serves.reachable
  marked := by
    intro _ member
    rcases List.mem_map.1 member with ⟨station, among, rfl⟩
    rw [Alike.isLive ⟨change, alike, rfl⟩]
    exact marked station among
  agrees := by
    intro key _ member serving
    rcases List.mem_map.1 member with ⟨station, among, rfl⟩
    rw [Alike.server? ⟨change, alike, rfl⟩,
      ← (alike station).address] at serving
    exact agrees key station among serving

theorem atTime
    (serves : Serves members links origin fleet table)
    (now : Int64) :
    Serves members links origin (fleet.atTime now) table :=
  serves.of_alike (Station.resembles_atTime now) serves.marked serves.agrees

/-- When the first live owner carries a command out, so does the one store. -/
theorem withTableAt
    (serves : Serves members links origin fleet table)
    {command : Command}
    (now : Int64)
    {holder : Station}
    (held : holder ∈ fleet)
    (serving : server? members links fleet command.key = some holder.address) :
    Serves members links origin
      (fleet.withTableAt holder.address
        (command.run now holder.node.site.table).2)
      (command.run now table).2 := by
  have same := serves.agrees command.key holder held serving
  apply serves.of_alike (Station.resembles_withTable _ _)
  · intro station among
    split
    case isTrue => exact serves.marked station among
    case isFalse => exact serves.marked station among
  · intro key station among serving'
    by_cases ours : key = command.key
    · subst ours
      rw [serving, Option.some_inj] at serving'
      rw [if_pos serving'.symm]
      exact (command.run_congr now same).2
    · rw [command.find?_run_of_ne now table ours,
        ← serves.agrees key station among serving']
      split
      case isTrue here =>
        have equal : station = holder :=
          eq_of_address serves.cluster.distinct among held here
        subst equal
        exact command.find?_run_of_ne now _ ours
      case isFalse => rfl

theorem withDamageAt
    (serves : Serves members links origin fleet table)
    (address : Endpoint)
    {damage : Damage}
    (marked : damage.MarksOnly fun peer => fleet.isLive links peer = false) :
    Serves members links origin (fleet.withDamageAt address damage) table := by
  apply serves.of_alike (Station.resembles_withDamage address damage)
  · intro station among
    split
    case isTrue => exact marked
    case isFalse => exact serves.marked station among
  · intro key station among serving
    rw [← serves.agrees key station among serving]
    split
    case isTrue => rfl
    case isFalse => rfl

end Serves

/-! ## Runs -/

/-- The addresses of the nodes and their tables. -/
def tables (fleet : Fleet) : List (Endpoint × Table) :=
  fleet.map fun station => (station.address, station.node.site.table)

/-- The tables when the node at an address, and it alone, carries a command out. -/
def carriedOut
    (command : Command)
    (now : Int64)
    (server : Endpoint)
    (tables : List (Endpoint × Table)) :
    List (Endpoint × Table) :=
  tables.map fun held =>
    (held.1, if held.1 = server then (command.run now held.2).2 else held.2)

theorem tables_withDamageAt
    (fleet : Fleet)
    (address : Endpoint)
    (damage : Damage) :
    (fleet.withDamageAt address damage).tables = fleet.tables := by
  rw [tables, withDamageAt, List.map_map]
  apply List.map_congr_left
  intro station _
  rw [Function.comp_apply]
  split
  case isTrue => rfl
  case isFalse => rfl

theorem tables_withTableAt
    (distinct : fleet.HasDistinctAddresses)
    {holder : Station}
    (held : holder ∈ fleet)
    (command : Command)
    (now : Int64) :
    (fleet.withTableAt holder.address
        (command.run now holder.node.site.table).2).tables =
      carriedOut command now holder.address fleet.tables := by
  unfold tables withTableAt carriedOut
  rw [List.map_map, List.map_map]
  apply List.map_congr_left
  intro station among
  rw [Function.comp_apply, Function.comp_apply]
  split
  case isTrue here =>
    have same := eq_of_address distinct among held here
    subst same
    rfl
  case isFalse => rfl

theorem tables_atTime (fleet : Fleet) (now : Int64) :
    (fleet.atTime now).tables = fleet.tables := by
  rw [tables, atTime, List.map_map]
  rfl

/-- What an operation that fits comes to, and what it leaves. -/
theorem Serves.step
    {table : Table}
    (serves : Serves members links origin fleet table)
    {operation : Operation}
    (fits : operation.Fits members links fleet)
    (now : Int64) :
    ∃ server after,
      server? members links fleet operation.command.key = some server ∧
      operate links origin now operation fleet =
        (some (.ok (operation.command.run now table).1), after) ∧
      tables after = carriedOut operation.command now server fleet.tables ∧
      fleet.Alike after ∧
      Serves members links origin after (operation.command.run now table).2 := by
  have timed := serves.atTime now
  have timely := fits.of_alike (alike_atTime fleet now)
  rcases timely.asked with ⟨station, here, live, fewer⟩
  have clocks : ∀ other ∈ fleet.atTime now, other.now = now := by
    intro _ member
    rcases List.mem_map.1 member with ⟨other, _, rfl⟩
    rfl
  rcases act_eq timed.cluster timed.reachable timed.marked clocks here live fewer
      timely.traced timely.travels with
    ⟨holder, held, serving, damage, marks, acted⟩
  have same := timed.agrees operation.command.key holder held serving
  have written := timed.withTableAt now held serving
  have alike := alike_withTableAt (fleet.atTime now) holder.address
    (operation.command.run now holder.node.site.table).2
  have marks' := marks
  rw [← alike.isLive] at marks'
  refine ⟨holder.address, _, ?_, ?_, ?_, ?_,
    written.withDamageAt station.address marks'⟩
  · rw [← serving, (alike_atTime fleet now).server?]
  · simp only [Fleet.operate, here, acted]
    rw [(operation.command.run_congr now same).1]
  · rw [tables_withDamageAt, tables_withTableAt timed.cluster.distinct held,
      tables_atTime]
  · exact ((alike_atTime fleet now).trans alike).trans
      (alike_withDamageAt _ station.address damage)

/-- The one store, which is asked for the same commands. -/
def oneStore
    (now : Int64)
    (operation : Operation) :
    StateM Table (Except Error Outcome) :=
  operation.command.operate (Datastore.ofTable now)

/--
Whether an operation succeeded, when nobody counted a live node as damaged, and
the first live owner of the key carried it out and nobody else did.
-/
structure IsCarriedOut
    (members : List Endpoint)
    (links : Links)
    (origin : Endpoint → Ip)
    (fleet : Fleet)
    (record : Record Fleet Operation (Option (Except Error Outcome))) :
    Prop where
  succeeds : ∃ outcome, record.answer = some (.ok outcome)
  marked : record.before.IsMarkedRightly links
  once : ∃ server,
    server? members links fleet record.moment.event.command.key =
      some server ∧
    tables (operate links origin record.moment.now record.moment.event
        record.before).2 =
      carriedOut record.moment.event.command record.moment.now server
        record.before.tables

/-- Along a run the fleet keeps serving what the one store holds. -/
theorem Serves.history
    {table : Table}
    (serves : Serves members links origin fleet table)
    {moments : List (Moment Operation)}
    (fits : ∀ moment ∈ moments, moment.event.Fits members links fleet) :
    (Run.history (operate links origin) fleet moments).map Record.answer =
        (Run.history oneStore table moments).map (some ·.answer) ∧
      ∀ record ∈ Run.history (operate links origin) fleet moments,
        IsCarriedOut members links origin fleet record := by
  induction moments generalizing fleet table with
  | nil => exact ⟨rfl, fun record member => nomatch member⟩
  | cons moment rest ih =>
      rcases serves.step (fits moment List.mem_cons_self) moment.now with
        ⟨server, after, serving, operated, written, alike, serves'⟩
      have fits' : ∀ later ∈ rest, later.event.Fits members links after :=
        fun later member =>
          (fits later (List.mem_cons_of_mem moment member)).of_alike alike
      rcases ih serves' fits' with ⟨answers, records⟩
      have single : oneStore moment.now moment.event table =
          (.ok (moment.event.command.run moment.now table).1,
            (moment.event.command.run moment.now table).2) :=
        Command.operate_ofTable _ _ _
      constructor
      · simp only [Run.history, List.map_cons, operated, single, answers]
      · intro record member
        rw [Run.history, operated] at member
        rcases List.mem_cons.1 member with rfl | later
        · refine ⟨⟨_, rfl⟩, serves.marked, server, serving, ?_⟩
          rw [operated]
          exact written
        · rcases records record later with ⟨succeeds, marks, once⟩
          rw [alike.server?] at once
          exact ⟨succeeds, marks, once⟩

/-- Nodes that hold nothing serve a store that holds nothing. -/
theorem serves_of_empty
    (cluster : fleet.IsCluster members links origin)
    (reachable : ∀ member ∈ members, (Peer.originOf? member).isSome = true)
    (marked : fleet.IsMarkedRightly links)
    (empty : ∀ station ∈ fleet, station.node.site.table = .empty) :
    Serves members links origin fleet .empty where
  cluster := cluster
  reachable := reachable
  marked := marked
  agrees := by
    intro key station among _
    rw [empty station among]

/--
A cluster of members that uris can name, whose nodes hold nothing at first,
answers every run of operations that fit as one store would: each operation
succeeds, the first live owner of its key carries it out and nobody else, and
only nodes that are not live are ever counted as damaged.
-/
theorem acts_as_one_store
    (cluster : fleet.IsCluster members links origin)
    (reachable : ∀ member ∈ members, (Peer.originOf? member).isSome = true)
    (marked : fleet.IsMarkedRightly links)
    (empty : ∀ station ∈ fleet, station.node.site.table = .empty)
    {moments : List (Moment Operation)}
    (fits : ∀ moment ∈ moments, moment.event.Fits members links fleet) :
    (Run.history (operate links origin) fleet moments).map Record.answer =
        (Run.history oneStore .empty moments).map (some ·.answer) ∧
      ∀ record ∈ Run.history (operate links origin) fleet moments,
        IsCarriedOut members links origin fleet record :=
  (serves_of_empty cluster reachable marked empty).history fits

/-! ## Open nodes -/

/-- A node without limits that admits everyone and was told of other nodes. -/
def openStation (address : Endpoint) (others : List Endpoint) : Station where
  node :=
    { site :=
        { table := .empty
          view := .ofMembers address others 0
          manner :=
            { attemptTime := .ofSeconds 1
              maxAttempts := 2
              cooldown := .ofSeconds 5
              hostKey := "node" }
          damage := .none }
      access := .everyone
      rules := { version := 0, groups := [], shared := [] }
      maxObject := Peer.defaultMaxObject }
  now := 0
  isListening := true

/-- Whether all nodes are open and know the same members. -/
def AreOpen (members : List Endpoint) (fleet : Fleet) : Prop :=
  ∀ station ∈ fleet, ∃ address others,
    station = openStation address others ∧
    (∀ member ∈ Cluster.View.withSelf address others, member ∈ members) ∧
    ∀ member ∈ members, member ∈ Cluster.View.withSelf address others

namespace AreOpen

variable (opened : AreOpen members fleet)

include opened

theorem isCluster
    (distinct : fleet.HasDistinctAddresses)
    (keeps : members.all (Ring.keepsFirst members defaultShare) = true)
    (links : Links)
    (origin : Endpoint → Ip) :
    IsCluster members links origin fleet := by
  refine ⟨distinct, ?knows, Ring.holds_of_keepsFirst keeps, ?admits, ?named,
    ?addressable⟩
  case knows =>
    intro station among
    rcases opened station among with ⟨address, others, rfl, forth, back⟩
    exact ⟨others, 0, rfl, fun member => ⟨forth member, back member⟩⟩
  case admits =>
    intro station among caller _ _ _
    rcases opened station among with ⟨address, others, rfl, _⟩
    rfl
  case named =>
    intro station among
    rcases opened station among with ⟨address, others, rfl, _⟩
    have name : Http.IsFieldText "node" ∧ Text.isBlankText "node" = false := by
      decide
    exact name
  case addressable =>
    intro station among
    rcases opened station among with ⟨address, others, rfl, _⟩
    have size : Peer.defaultMaxObject <
        Wire.capacity Wire.Width.eight.bytes := by
      decide
    exact size

theorem isMarkedRightly (links : Links) : fleet.IsMarkedRightly links := by
  intro station among
  rcases opened station among with ⟨address, others, rfl, _⟩
  exact Damage.marksOnly_none _

theorem empty : ∀ station ∈ fleet, station.node.site.table = .empty := by
  intro station among
  rcases opened station among with ⟨address, others, rfl, _⟩
  rfl

/-- Two attempts are enough as long as all members but one are live. -/
theorem fits
    {down : Endpoint}
    (others : ∀ member ∈ members,
      fleet.isLive links member = false → member = down)
    {operation : Operation}
    {station : Station}
    (here : fleet[operation.place]? = some station)
    (live : fleet.isLive links station.address = true)
    (traced : Http.IsFieldText operation.trace)
    (travels : operation.command.Travels Peer.defaultMaxObject) :
    operation.Fits members links fleet := by
  refine ⟨⟨station, here, live, ?fewer⟩, traced, ?travels⟩
  case fewer =>
    have budget : station.node.site.manner.budget = 2 := by
      rcases opened station (List.mem_of_getElem? here) with
        ⟨address, others, rfl, _⟩
      rfl
    have dead : ((ownersOf members operation.command.key).takeWhile
        (!fleet.isLive links ·)) ⊆ [down] := by
      intro peer member
      have owns := (List.takeWhile_sublist _).subset member
      have isDown := List.mem_takeWhile_imp member
      rw [List.mem_singleton]
      apply others peer (Ring.mem_of_mem_owners owns)
      simpa using isDown
    have distinct : ((ownersOf members operation.command.key).takeWhile
        (!fleet.isLive links ·)).Nodup :=
      (Ring.nodup_owners _ _).sublist (List.takeWhile_sublist _)
    rw [budget]
    exact Nat.lt_succ_of_le (List.subperm_of_subset distinct dead).length_le
  case travels =>
    intro other among
    rcases opened other among with ⟨address, others, rfl, _⟩
    exact travels

end AreOpen

/--
Two nodes that were told of each other and of a third, which is down, count
patches of both once.
-/
theorem acts_as_one_store_beside_dead :
    let first : Endpoint := .v4 0x7f000001 8410
    let second : Endpoint := .v4 0x7f000001 8411
    let third : Endpoint := .v4 0x7f000001 8412
    let fleet : Fleet :=
      [openStation first [second, third], openStation second [third, first]]
    let key : Key := ⟨"k", by decide⟩
    let moments : List (Moment Operation) :=
      [⟨1700000000000, 0, "t1", .patch key (.increment 2) (.ofSeconds 60)⟩,
        ⟨1700000001000, 1, "t2", .patch key (.increment 3) (.ofSeconds 60)⟩,
        ⟨1700000002000, 0, "t3", .get key⟩]
    fleet.isLive (fun _ => true) third = false ∧
      (Run.history (operate (fun _ => true) fun _ => .loopback) fleet
        moments).map Record.answer =
        [some (.ok (.patched (Wire.encode (2 : Int64)))),
          some (.ok (.patched (Wire.encode (5 : Int64)))),
          some (.ok (.value (some (Wire.encode (5 : Int64)))))] := by
  intro first second third fleet key moments
  have opened : AreOpen [first, second, third] fleet := by
    intro station among
    rcases List.mem_pair.1 among with rfl | rfl
    · exact ⟨first, [second, third], rfl, by decide, by decide⟩
    · exact ⟨second, [third, first], rfl, by decide, by decide⟩
  have cluster := opened.isCluster (by decide) (by decide +kernel)
    (fun _ => true) fun _ => .loopback
  have reads : (Command.get key).Travels Peer.defaultMaxObject := by
    refine ⟨by decide, ?_⟩
    rintro lifetime body ⟨⟩
  have fits : ∀ moment ∈ moments,
      moment.event.Fits [first, second, third] (fun _ => true) fleet := by
    have others : ∀ member ∈ [first, second, third],
        fleet.isLive (fun _ => true) member = false → member = third := by
      decide
    intro moment among
    simp only [moments, List.mem_cons, List.not_mem_nil, or_false] at among
    rcases among with rfl | rfl | rfl
    · apply opened.fits others rfl (by decide) (by decide)
      refine ⟨by decide, ?_⟩
      rintro lifetime body ⟨⟩
      exact ⟨⟨rfl, by decide, by decide⟩, by decide⟩
    · apply opened.fits others rfl (by decide) (by decide)
      refine ⟨by decide, ?_⟩
      rintro lifetime body ⟨⟩
      exact ⟨⟨rfl, by decide, by decide⟩, by decide⟩
    · exact opened.fits others rfl (by decide) (by decide) reads
  refine ⟨by decide, ?_⟩
  have same := (acts_as_one_store cluster (by decide)
    (opened.isMarkedRightly _) opened.empty fits).1
  rw [same]
  decide +kernel

end Fleet

end QuotaRing
