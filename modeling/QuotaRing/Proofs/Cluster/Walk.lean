import Mathlib.Data.List.Nodup
import Mathlib.Data.List.Perm.Subperm
import Mathlib.Data.List.TakeWhile
import Mathlib.Data.Prod.Lex
import QuotaRing.Proofs.Cluster.Members

/-!
# The walk around the ring

The owners of a key are members, each is listed once, and every member that
keeps a position is among them.  A member keeps a position that nobody else
claims, and the first owner of a key is the one whose position comes next.
-/

namespace QuotaRing.Cluster

open QuotaRing.Net (Endpoint)

/-! ## The order of spots -/

namespace Spot

/-- The position of a spot, then the rank of its holder. -/
def rank (spot : Spot) : Nat ×ₗ Nat :=
  toLex (spot.position.toNat, spot.holder.rank)

theorem ranked : RankedBy precedes rank where
  precedes_iff := by
    intro left right
    simp only [precedes, rank, Prod.Lex.toLex_le_toLex, Bool.or_eq_true,
      Bool.and_eq_true, decide_eq_true_iff, beq_iff_eq,
      UInt64.lt_iff_toNat_lt, UInt64.toNat_inj, Endpoint.ranked.precedes_iff]
  rank_injective := by
    intro left right same
    rcases Prod.mk.inj (toLex.injective same) with ⟨position, holder⟩
    rw [Spot.mk.injEq]
    exact ⟨UInt64.toNat_inj.1 position, Endpoint.rank_injective holder⟩

theorem precedes_iff_of_position_eq
    {left right : Spot}
    (same : left.position = right.position) :
    left.precedes right = true ↔ left.holder.precedes right.holder = true := by
  simp [precedes, same]

theorem position_le_of_precedes
    {left right : Spot}
    (precedes : left.precedes right = true) :
    left.position ≤ right.position :=
  UInt64.le_iff_toNat_le.2
    (Prod.Lex.monotone_fst _ _ (ranked.precedes_iff.1 precedes))

end Spot

/-! ## Claims -/

section Claims

variable
    {listed : List Endpoint}
    {share : Nat}
    {member : Endpoint}
    {spot : Spot}

theorem holder_of_mem_claimedSpots
    (claimed : spot ∈ claimedSpots share member) :
    spot.holder = member := by
  rcases List.mem_map.1 claimed with ⟨index, _, rfl⟩
  rfl

theorem mem_claims :
    spot ∈ claims listed share ↔
      spot.holder ∈ listed ∧ spot ∈ claimedSpots share spot.holder := by
  rw [claims, List.mem_mergeSort, List.mem_flatMap]
  constructor
  · rintro ⟨claimant, among, its⟩
    rw [holder_of_mem_claimedSpots its]
    exact ⟨mem_distinctMembers.1 among, its⟩
  · rintro ⟨among, its⟩
    exact ⟨spot.holder, mem_distinctMembers.2 among, its⟩

theorem ordered_claims (listed : List Endpoint) (share : Nat) :
    (claims listed share).Pairwise
      fun earlier later => earlier.precedes later = true :=
  Spot.ranked.pairwise_mergeSort _

end Claims

/-! ## The first claim to each position -/

theorem firstAtEach_sublist (spots : List Spot) :
    (firstAtEach spots).Sublist spots := by
  induction spots with
  | nil => exact List.nil_sublist []
  | cons first rest ih =>
      exact ((List.dropWhile_sublist _).trans ih).cons_cons first

/-- A position that is claimed in an ordered list is kept for its first claimant. -/
theorem exists_firstAtEach
    {spots : List Spot}
    (ordered : spots.Pairwise fun earlier later => earlier.precedes later = true)
    {spot : Spot}
    (listed : spot ∈ spots) :
    ∃ kept ∈ firstAtEach spots,
      kept.position = spot.position ∧ kept.precedes spot = true := by
  induction spots with
  | nil => cases listed
  | cons first rest ih =>
      rcases List.pairwise_cons.1 ordered with ⟨precedes, others⟩
      rcases List.mem_cons.1 listed with rfl | later
      · exact ⟨spot, List.mem_cons_self, rfl, Spot.ranked.precedes_refl spot⟩
      · rcases ih others later with ⟨kept, member, same, earlier⟩
        have parts := List.takeWhile_append_dropWhile
          (p := fun other : Spot => other.position == first.position)
          (l := firstAtEach rest)
        rw [← parts, List.mem_append] at member
        rcases member with dropped | stays
        · have equal := List.mem_takeWhile_imp dropped
          exact ⟨first, List.mem_cons_self, (eq_of_beq equal).symm.trans same,
            precedes spot later⟩
        · exact ⟨kept, List.mem_cons_of_mem first stays, same, earlier⟩

namespace Ring

/-! ## Meeting holders -/

theorem nodup_concat
    {found : List Endpoint}
    {holder : Endpoint}
    (distinct : found.Nodup)
    (unknown : ¬ found.contains holder = true) :
    (found ++ [holder]).Nodup := by
  rw [← List.concat_eq_append]
  exact distinct.concat fun old => unknown (List.contains_iff_mem.2 old)

theorem concat_subset
    {members found : List Endpoint}
    {holder : Endpoint}
    (among : found ⊆ members)
    (listed : holder ∈ members) :
    found ++ [holder] ⊆ members :=
  List.append_subset.2
    ⟨among, List.cons_subset.2 ⟨listed, List.nil_subset members⟩⟩

/-- Whoever is met on a walk holds one of its spots. -/
theorem mem_meet
    {count : Nat}
    {found : List Endpoint}
    {spots : List Spot}
    {member : Endpoint}
    (met : member ∈ meet count found spots) :
    member ∈ found ∨ ∃ spot ∈ spots, spot.holder = member := by
  have first : ∀ {found : List Endpoint} {spot : Spot} {rest : List Spot},
      member ∈ found ++ [spot.holder] →
      member ∈ found ∨ ∃ other ∈ spot :: rest, other.holder = member := by
    intro found spot rest member
    rcases List.mem_append.1 member with old | new
    · exact .inl old
    · exact .inr ⟨spot, List.mem_cons_self, (List.mem_singleton.1 new).symm⟩
  fun_induction meet count found spots with
  | case1 found => exact .inl met
  | case2 found spot rest known ih =>
      rcases ih met with old | ⟨later, held, same⟩
      · exact .inl old
      · exact .inr ⟨later, List.mem_cons_of_mem spot held, same⟩
  | case3 found spot rest unknown longer full => exact first met
  | case4 found spot rest unknown longer short ih =>
      rcases ih met with old | ⟨later, held, same⟩
      · exact first old
      · exact .inr ⟨later, List.mem_cons_of_mem spot held, same⟩

/-- As many different members as there are in all are all of them. -/
theorem mem_of_full
    {members found : List Endpoint}
    (distinct : found.Nodup)
    (among : found ⊆ members)
    (full : found.length = members.length)
    {member : Endpoint}
    (listed : member ∈ members) :
    member ∈ found :=
  ((List.subperm_of_subset distinct among).perm_of_length_le
    (Nat.le_of_eq full.symm)).mem_iff.2 listed

/-- Every holder is met on a walk that ends only when all members are found. -/
theorem mem_meet_of_holds
    {members found : List Endpoint}
    {spots : List Spot}
    {member : Endpoint}
    (distinct : found.Nodup)
    (among : found ⊆ members)
    (held : ∀ spot ∈ spots, spot.holder ∈ members)
    (listed : member ∈ members)
    (holds : member ∈ found ∨ ∃ spot ∈ spots, spot.holder = member) :
    member ∈ meet members.length found spots := by
  fun_induction meet members.length found spots with
  | case1 found =>
      rcases holds with old | ⟨spot, none, _⟩
      · exact old
      · cases none
  | case2 found spot rest known ih =>
      apply ih distinct among fun later member =>
        held later (List.mem_cons_of_mem spot member)
      rcases holds with old | ⟨met, here, rfl⟩
      · exact .inl old
      · rcases List.mem_cons.1 here with rfl | later
        · exact .inl (List.contains_iff_mem.1 known)
        · exact .inr ⟨met, later, rfl⟩
  | case3 found spot rest unknown longer full =>
      exact mem_of_full (nodup_concat distinct unknown)
        (concat_subset among (held spot List.mem_cons_self)) full listed
  | case4 found spot rest unknown longer short ih =>
      apply ih (nodup_concat distinct unknown)
        (concat_subset among (held spot List.mem_cons_self)) fun later member =>
        held later (List.mem_cons_of_mem spot member)
      rcases holds with old | ⟨met, here, rfl⟩
      · exact .inl (List.mem_append_left _ old)
      · rcases List.mem_cons.1 here with rfl | later
        · exact .inl (List.mem_append_right _ List.mem_cons_self)
        · exact .inr ⟨met, later, rfl⟩

/-- Nobody is met twice. -/
theorem nodup_meet
    {count : Nat}
    {found : List Endpoint}
    {spots : List Spot}
    (distinct : found.Nodup) :
    (meet count found spots).Nodup := by
  fun_induction meet count found spots with
  | case1 found => exact distinct
  | case2 found spot rest known ih => exact ih distinct
  | case3 found spot rest unknown longer full =>
      exact nodup_concat distinct unknown
  | case4 found spot rest unknown longer short ih =>
      exact ih (nodup_concat distinct unknown)

/-- Whoever has been found stays at the head. -/
theorem prefix_meet
    (count : Nat)
    (found : List Endpoint)
    (spots : List Spot) :
    ∃ others, meet count found spots = found ++ others := by
  fun_induction meet count found spots with
  | case1 found => exact ⟨[], (List.append_nil found).symm⟩
  | case2 found spot rest known ih => exact ih
  | case3 found spot rest unknown longer full => exact ⟨[spot.holder], rfl⟩
  | case4 found spot rest unknown longer short ih =>
      rcases ih with ⟨others, met⟩
      exact ⟨spot.holder :: others, met.trans (List.append_assoc _ _ _)⟩

/-! ## Who holds which spots -/

variable
    {listed : List Endpoint}
    {share : Nat}
    {member : Endpoint}
    {spot : Spot}

/-- Every spot that is held is claimed by its holder. -/
theorem claimed_of_mem_spots
    (held : spot ∈ (Ring.ofMembers listed share).spots) :
    spot.holder ∈ listed ∧ spot ∈ claimedSpots share spot.holder :=
  mem_claims.1 ((firstAtEach_sublist _).subset held)

theorem sorted_spots (listed : List Endpoint) (share : Nat) :
    (Ring.ofMembers listed share).spots.Pairwise
      fun earlier later => earlier.position ≤ later.position :=
  ((ordered_claims listed share).imp Spot.position_le_of_precedes).sublist
    (firstAtEach_sublist _)

theorem exists_position
    (among : member ∈ listed)
    (claims : spot ∈ claimedSpots share member) :
    ∃ kept ∈ (Ring.ofMembers listed share).spots,
      kept.position = spot.position ∧ kept.precedes spot = true := by
  apply exists_firstAtEach (ordered_claims listed share)
  rw [mem_claims, holder_of_mem_claimedSpots claims]
  exact ⟨among, claims⟩

/-- A member keeps a position that no other member before it claims. -/
theorem holds_of_unshared
    (among : member ∈ listed)
    (claims : spot ∈ claimedSpots share member)
    (unshared : ∀ other ∈ listed, other ≠ member →
      other.precedes member = true →
      ∀ claimed ∈ claimedSpots share other,
        claimed.position ≠ spot.position) :
    ∃ kept ∈ (Ring.ofMembers listed share).spots, kept.holder = member := by
  rcases exists_position among claims with ⟨kept, held, same, earlier⟩
  have its := claimed_of_mem_spots held
  have precedes := (Spot.precedes_iff_of_position_eq same).1 earlier
  rw [holder_of_mem_claimedSpots claims] at precedes
  refine ⟨kept, held, ?_⟩
  by_contra another
  exact unshared kept.holder its.1 another precedes kept its.2 same

/-- Whether nobody before a member claims the position of its first label. -/
def keepsFirst (listed : List Endpoint) (share : Nat) (member : Endpoint) : Bool :=
  listed.all fun other =>
    other == member || !other.precedes member ||
      (claimedSpots share other).all
        (·.position != ringHash (Text.Utf8.encode (label member 0)))

theorem holds_of_keepsFirst
    (keeps : listed.all (keepsFirst listed share) = true) :
    ∀ member ∈ listed,
      ∃ kept ∈ (Ring.ofMembers listed share).spots, kept.holder = member := by
  intro member among
  have first : Spot.mk (ringHash (Text.Utf8.encode (label member 0))) member ∈
      claimedSpots share member :=
    List.mem_map.2 ⟨0, List.mem_range.2 (Nat.le_max_left 1 share), rfl⟩
  apply holds_of_unshared among first
  intro other listed another earlier claimed claims
  have free := List.all_eq_true.1 (List.all_eq_true.1 keeps member among) other
    listed
  rw [beq_false_of_ne another, earlier] at free
  exact bne_iff_ne.1 (List.all_eq_true.1 free claimed claims)

/-! ## Owners -/

variable {key : List UInt8}

theorem mem_walkFrom
    {ring : Ring}
    {position : UInt64} :
    spot ∈ ring.walkFrom position ↔ spot ∈ ring.spots := by
  simp only [walkFrom, List.mem_append, List.mem_filter, decide_eq_true_iff]
  constructor
  · rintro (⟨held, _⟩ | ⟨held, _⟩)
    · exact held
    · exact held
  · intro held
    rcases UInt64.le_or_lt position spot.position with above | below
    · exact .inl ⟨held, above⟩
    · exact .inr ⟨held, below⟩

theorem nodup_owners (ring : Ring) (key : List UInt8) :
    (ring.owners key).Nodup :=
  nodup_meet List.nodup_nil

/-- Every owner of a key is a member. -/
theorem mem_of_mem_owners
    (owns : member ∈ (Ring.ofMembers listed share).owners key) :
    member ∈ listed := by
  rcases mem_meet owns with none | ⟨spot, held, rfl⟩
  · cases none
  · exact (claimed_of_mem_spots (mem_walkFrom.1 held)).1

/-- Every member that keeps a position is an owner of every key. -/
theorem mem_owners_of_holds
    (among : member ∈ listed)
    (holds : ∃ spot ∈ (Ring.ofMembers listed share).spots,
      spot.holder = member)
    (key : List UInt8) :
    member ∈ (Ring.ofMembers listed share).owners key := by
  have members : (Ring.ofMembers listed share).members =
      distinctMembers listed := rfl
  apply mem_meet_of_holds List.nodup_nil
  · intro other none
    cases none
  · intro spot met
    rw [members, mem_distinctMembers]
    exact (claimed_of_mem_spots (mem_walkFrom.1 met)).1
  · rw [members, mem_distinctMembers]
    exact among
  · rcases holds with ⟨spot, held, same⟩
    exact .inr ⟨spot, mem_walkFrom.2 held, same⟩

/-- A walk that meets a position above its start begins no further than there. -/
theorem exists_walkFrom
    {ring : Ring}
    (sorted : ring.spots.Pairwise
      fun earlier later => earlier.position ≤ later.position)
    {position : UInt64}
    (held : spot ∈ ring.spots)
    (above : position ≤ spot.position) :
    ∃ first later,
      ring.walkFrom position = first :: later ∧
      first ∈ ring.spots ∧
      position ≤ first.position ∧ first.position ≤ spot.position := by
  have upward := sorted.filter fun other => decide (position ≤ other.position)
  have among : spot ∈ ring.spots.filter (position ≤ ·.position) :=
    List.mem_filter.2 ⟨held, decide_eq_true above⟩
  rw [walkFrom]
  cases walked : ring.spots.filter (position ≤ ·.position) with
  | nil =>
      rw [walked] at among
      cases among
  | cons first later =>
      have its : first ∈ ring.spots.filter (position ≤ ·.position) := by
        rw [walked]
        exact List.mem_cons_self
      rcases List.mem_filter.1 its with ⟨member, notBelow⟩
      refine ⟨first, _, rfl, member, of_decide_eq_true notBelow, ?_⟩
      rw [walked] at upward among
      rcases List.mem_cons.1 among with rfl | after
      · exact UInt64.le_refl _
      · exact (List.pairwise_cons.1 upward).1 spot after

/-- Whoever is met first is the first owner. -/
theorem owners_of_walkFrom
    {ring : Ring}
    {first : Spot}
    {later : List Spot}
    (walked : ring.walkFrom (ringHash key) = first :: later) :
    ∃ rest, ring.owners key = first.holder :: rest := by
  rw [owners, walked, meet]
  split
  case isTrue known => cases known
  case isFalse =>
    dsimp only
    split
    case isTrue => exact ⟨[], rfl⟩
    case isFalse => exact prefix_meet ring.members.length [first.holder] later

/-- The member whose position comes next after a key is its first owner. -/
theorem owners_of_next
    (among : member ∈ listed)
    (claims : spot ∈ claimedSpots share member)
    (next : ringHash key ≤ spot.position)
    (others : ∀ other ∈ listed, other ≠ member →
      ∀ claimed ∈ claimedSpots share other,
        claimed.position < ringHash key ∨ spot.position < claimed.position) :
    ∃ rest, (Ring.ofMembers listed share).owners key = member :: rest := by
  rcases exists_position among claims with ⟨kept, held, same, _⟩
  rw [← same] at next
  rcases exists_walkFrom (sorted_spots listed share) held next with
    ⟨first, later, walked, holds, above, least⟩
  rcases owners_of_walkFrom walked with ⟨rest, owners⟩
  have its := claimed_of_mem_spots holds
  have holder : first.holder = member := by
    by_contra another
    rcases others first.holder its.1 another first its.2 with below | beyond
    · exact UInt64.not_lt.2 above below
    · rw [← same] at beyond
      exact UInt64.not_lt.2 least beyond
  rw [holder] at owners
  exact ⟨rest, owners⟩

end Ring

end QuotaRing.Cluster
