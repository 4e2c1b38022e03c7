import QuotaRing.Proofs.Node.OneStore

/-!
# Members in zones

No uri names a member that is in a zone, so no node can ask it.  As long as such
a member is not counted as damaged, operations on the keys of which it is the
first owner fail at every other node, whether the member is live or not.
-/

namespace QuotaRing.Fleet

open QuotaRing.Cluster (Ring Spot defaultShare label ownersOf ringHash)
open QuotaRing.Net (Endpoint Ip)
open QuotaRing.Peer (Command Site)
open QuotaRing.Store (Key)

variable
    {members : List Endpoint}
    {links : Links}
    {origin : Endpoint → Ip}
    {fleet : Fleet}

theorem operate_of_zoned
    (cluster : fleet.IsCluster members links origin)
    (operation : Operation)
    {station : Station}
    (here : fleet[operation.place]? = some station)
    {first : Endpoint}
    {rest : List Endpoint}
    (owners : ownersOf members operation.command.key = first :: rest)
    (another : station.address ≠ first)
    (zoned : Peer.originOf? first = none)
    {now : Int64}
    (undamaged : station.node.site.damage.isDamaged now first = false) :
    (operate links origin now operation fleet).1 =
      some (.error (Peer.unusablePeer first)) := by
  have among : station ∈ fleet := List.mem_of_getElem? here
  have owns : station.node.site.view.owners operation.command.key =
      first :: rest := by
    rw [(cluster.knows station among).owners, owners]
  have timed : (fleet.atTime now)[operation.place]? =
      some { station with now := now } := by
    rw [atTime, List.getElem?_map, here, Option.map_some]
  simp only [operate, timed, act, Operation.action, Node.onSite]
  rw [Command.operate_of_error (.inr rfl)
    (Site.dispatch_of_unusable now owns another zoned undamaged)]

/--
One store would take every operation, but a cluster refuses those that would
have to be sent to a member in a zone, here to one that is down: that a cluster
acts as one store does not hold of every set of members.
-/
theorem refuses_beside_zoned :
    let address : Endpoint := .v4 0x7f000001 8410
    let zoned : Endpoint := .v6 0xfe800000000000000000000000000001 8410 1
    let links : Links := fun _ => true
    let origin : Endpoint → Ip := fun _ => .loopback
    let fleet : Fleet := [openStation address [zoned]]
    let moments : List (Moment Operation) :=
      [⟨1700000000000, 0, "t1",
        .put ⟨"k2", by decide⟩ [118] (.ofSeconds 60)⟩]
    fleet.IsCluster [zoned, address] links origin ∧
      fleet.IsMarkedRightly links ∧
      (∀ station ∈ fleet, station.node.site.table = .empty) ∧
      (∀ moment ∈ moments, moment.event.Fits [zoned, address] links fleet) ∧
      (Run.history oneStore .empty moments).map Record.answer =
        [.ok .stored] ∧
      (Run.history (operate links origin) fleet moments).map Record.answer =
        [some (.error (Peer.unusablePeer zoned))] := by
  intro address zoned links origin fleet moments
  have opened : AreOpen [zoned, address] fleet := by
    intro station among
    rw [List.mem_singleton.1 among]
    exact ⟨address, [zoned], rfl, by decide, by decide⟩
  have cluster : fleet.IsCluster [zoned, address] links origin :=
    opened.isCluster (by decide) (by decide +kernel) links origin
  have owners : ∃ rest,
      ownersOf [zoned, address] ⟨"k2", by decide⟩ = zoned :: rest := by
    -- The hundred and eighteenth position of the zoned member comes next.
    apply Ring.owners_of_next List.mem_cons_self
      (List.mem_map.2 ⟨117, by decide, rfl⟩)
    · decide +kernel
    · intro other listed another
      rcases List.mem_pair.1 listed with rfl | rfl
      · exact absurd rfl another
      · have free : ((Cluster.claimedSpots defaultShare address).all fun claimed =>
            decide (claimed.position < ringHash (Text.Utf8.encode "k2") ∨
              ringHash (Text.Utf8.encode (label zoned 117)) <
                claimed.position)) = true := by
          decide +kernel
        intro claimed claims
        exact of_decide_eq_true (List.all_eq_true.1 free claimed claims)
  rcases owners with ⟨rest, owners⟩
  refine ⟨cluster, opened.isMarkedRightly links, opened.empty, ?_,
    by decide +kernel, ?_⟩
  · have others : ∀ member ∈ [zoned, address],
        fleet.isLive links member = false → member = zoned := by
      decide
    intro moment among
    rw [List.mem_singleton.1 among]
    apply opened.fits others rfl (by decide) (by decide)
    refine ⟨by decide, ?_⟩
    rintro lifetime body ⟨⟩
    exact ⟨⟨rfl, by decide, by decide⟩, by decide⟩
  · have refused : (operate links origin 1700000000000
        ⟨0, "t1", .put ⟨"k2", by decide⟩ [118] (.ofSeconds 60)⟩ fleet).1 =
        some (.error (Peer.unusablePeer zoned)) :=
      operate_of_zoned cluster
        ⟨0, "t1", .put ⟨"k2", by decide⟩ [118] (.ofSeconds 60)⟩ rfl owners
        (by decide) rfl rfl
    exact congrArg (fun answer => [answer]) refused

end QuotaRing.Fleet
