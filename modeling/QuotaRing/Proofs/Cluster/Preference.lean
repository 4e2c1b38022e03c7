import QuotaRing.Proofs.Cluster.Relocation

/-!
# Preference lists

A position of a ring is held by the lowest of the members that have a label on
it.  How far a walk upward from a place has come when it meets a position is
their difference, which wraps like the walk itself.  Main statement: the owners
of a key are all members that hold a position, each once, in the order of the
first positions of theirs that the walk meets.
-/

namespace QuotaRing.Cluster

open QuotaRing.Net (Endpoint)

/-! ## Who holds a position -/

/-- Whether one of the labels of a member falls on a position. -/
def FallsOn (share : Nat) (member : Endpoint) (position : UInt64) : Prop :=
  ∃ index < max 1 share,
    ringHash (Text.Utf8.encode (label member index)) = position

/-- Whether a member is the lowest of those with a label on a position. -/
structure Holds
    (listed : List Endpoint)
    (share : Nat)
    (member : Endpoint)
    (position : UInt64) :
    Prop where
  among : member ∈ listed
  claims : FallsOn share member position
  lowest : ∀ other ∈ listed, FallsOn share other position →
    member.precedes other = true

variable
    {listed : List Endpoint}
    {share : Nat}
    {member : Endpoint}
    {position : UInt64}

theorem mem_claimedSpots_iff {spot : Spot} :
    spot ∈ claimedSpots share member ↔
      spot.holder = member ∧ FallsOn share member spot.position := by
  constructor
  · intro claimed
    rcases List.mem_map.1 claimed with ⟨index, few, rfl⟩
    exact ⟨rfl, index, List.mem_range.1 few, rfl⟩
  · rintro ⟨rfl, index, few, falls⟩
    refine List.mem_map.2 ⟨index, List.mem_range.2 few, ?_⟩
    rw [falls]

theorem mem_claims_iff {spot : Spot} :
    spot ∈ claims listed share ↔
      spot.holder ∈ listed ∧ FallsOn share spot.holder spot.position := by
  rw [mem_claims, mem_claimedSpots_iff]
  exact and_congr_right fun _ => and_iff_right rfl

/-- The spots kept behind the first are those at other positions. -/
theorem firstAtEach_cons
    {first : Spot}
    {rest : List Spot}
    (ordered : (first :: rest).Pairwise
      fun earlier later => earlier.precedes later = true) :
    firstAtEach (first :: rest) =
      first :: (firstAtEach rest).filter (·.position != first.position) := by
  rcases List.pairwise_cons.1 ordered with ⟨least, others⟩
  have kept := firstAtEach_sublist rest
  rw [firstAtEach, dropWhile_position_eq_filter
    ((others.imp Spot.position_le_of_precedes).sublist kept)
    fun spot member => Spot.position_le_of_precedes
      (least spot (kept.subset member))]

/-- Of the spots at one position the first is kept. -/
theorem mem_firstAtEach_iff
    {spots : List Spot}
    (ordered : spots.Pairwise
      fun earlier later => earlier.precedes later = true)
    {spot : Spot} :
    spot ∈ firstAtEach spots ↔
      spot ∈ spots ∧ ∀ other ∈ spots, other.position = spot.position →
        spot.precedes other = true := by
  induction spots with
  | nil =>
      constructor
      · intro none
        cases none
      · rintro ⟨none, _⟩
        cases none
  | cons first rest ih =>
      rcases List.pairwise_cons.1 ordered with ⟨least, others⟩
      rw [firstAtEach_cons ordered, List.mem_cons, List.mem_filter, ih others,
        bne_iff_ne]
      constructor
      · rintro (rfl | ⟨⟨later, lowest⟩, elsewhere⟩)
        · refine ⟨List.mem_cons_self, fun other held _ => ?_⟩
          rcases List.mem_cons.1 held with rfl | after
          · exact Spot.ranked.precedes_refl other
          · exact least other after
        · refine ⟨List.mem_cons_of_mem first later, fun other held same => ?_⟩
          rcases List.mem_cons.1 held with rfl | after
          · exact absurd same.symm elsewhere
          · exact lowest other after same
      · rintro ⟨held, lowest⟩
        rcases List.mem_cons.1 held with rfl | later
        · exact .inl rfl
        · by_cases same : spot.position = first.position
          · -- the first one at the position of `first` is `first` itself
            exact .inl (Spot.ranked.precedes_antisymm
              (lowest first List.mem_cons_self same.symm) (least spot later))
          · exact .inr ⟨⟨later, fun other after =>
              lowest other (List.mem_cons_of_mem first after)⟩, same⟩

/-- Every position is kept once. -/
theorem ascending_firstAtEach
    {spots : List Spot}
    (ordered : spots.Pairwise
      fun earlier later => earlier.precedes later = true) :
    (firstAtEach spots).Pairwise
      fun earlier later => earlier.position < later.position := by
  induction spots with
  | nil => exact List.Pairwise.nil
  | cons first rest ih =>
      rcases List.pairwise_cons.1 ordered with ⟨least, others⟩
      rw [firstAtEach_cons ordered]
      refine List.pairwise_cons.2 ⟨?_, (ih others).filter _⟩
      intro spot kept
      rcases List.mem_filter.1 kept with ⟨held, elsewhere⟩
      have above := Spot.position_le_of_precedes
        (least spot ((firstAtEach_sublist rest).subset held))
      exact UInt64.lt_of_le_of_ne above (Ne.symm (bne_iff_ne.1 elsewhere))

namespace Ring

theorem ascending_spots (listed : List Endpoint) (share : Nat) :
    (Ring.ofMembers listed share).spots.Pairwise
      fun earlier later => earlier.position < later.position :=
  ascending_firstAtEach (ordered_claims listed share)

/-- The ring gives every position to the lowest member with a label on it. -/
theorem mem_spots_iff {spot : Spot} :
    spot ∈ (Ring.ofMembers listed share).spots ↔
      Holds listed share spot.holder spot.position := by
  have kept : spot ∈ (Ring.ofMembers listed share).spots ↔ _ :=
    mem_firstAtEach_iff (ordered_claims listed share)
  rw [kept]
  constructor
  · rintro ⟨held, lowest⟩
    rcases mem_claims_iff.1 held with ⟨among, claims⟩
    refine ⟨among, claims, fun other listed falls => ?_⟩
    have rival : Spot.mk spot.position other ∈ Cluster.claims _ share :=
      mem_claims_iff.2 ⟨listed, falls⟩
    have there : (Spot.mk spot.position other).position = spot.position := rfl
    have lower := lowest _ rival there
    rwa [Spot.precedes_iff_of_position_eq there.symm] at lower
  · rintro ⟨among, claims, lowest⟩
    refine ⟨mem_claims_iff.2 ⟨among, claims⟩, fun other held same => ?_⟩
    rcases mem_claims_iff.1 held with ⟨listed, falls⟩
    rw [same] at falls
    exact (Spot.precedes_iff_of_position_eq same.symm).2
      (lowest other.holder listed falls)

theorem exists_spot_iff :
    (∃ spot ∈ (Ring.ofMembers listed share).spots, spot.holder = member) ↔
      ∃ position, Holds listed share member position := by
  constructor
  · rintro ⟨spot, held, rfl⟩
    exact ⟨spot.position, mem_spots_iff.1 held⟩
  · rintro ⟨position, holds⟩
    exact ⟨⟨position, member⟩, mem_spots_iff.2 holds, rfl⟩

/-- The lowest member holds all of its positions, so a ring has positions. -/
theorem exists_holds (filled : listed ≠ []) (share : Nat) :
    ∃ member position, Holds listed share member position := by
  rcases List.exists_mem_of_ne_nil listed filled with ⟨some, among⟩
  have ordered := ordered_distinctMembers listed
  cases members : distinctMembers listed with
  | nil =>
      rw [← mem_distinctMembers, members] at among
      cases among
  | cons first rest =>
      rw [members] at ordered
      refine ⟨first, ringHash (Text.Utf8.encode (label first 0)), ?_⟩
      refine ⟨?_, ⟨0, Nat.le_max_left 1 share, rfl⟩, fun other held _ => ?_⟩
      · rw [← mem_distinctMembers, members]
        exact List.mem_cons_self
      · rw [← mem_distinctMembers, members] at held
        rcases List.mem_cons.1 held with rfl | later
        · exact Endpoint.ranked.precedes_refl other
        · exact (List.pairwise_cons.1 ordered).1 other later

/-! ## The order in which a walk meets the members -/

/-- How far a walk upward from a place has come when it meets a position. -/
def distance (start position : UInt64) : UInt64 :=
  position - start

theorem toNat_distance (start position : UInt64) :
    (distance start position).toNat =
      if start ≤ position then position.toNat - start.toNat
      else position.toNat + 0x10000000000000000 - start.toNat := by
  have small := start.toNat_lt
  have alsoSmall := position.toNat_lt
  simp only [distance, UInt64.toNat_sub, UInt64.le_iff_toNat_le]
  split <;> omega

/-- A walk meets every position later than those before. -/
theorem walkFrom_ascends
    {ring : Ring}
    (ascending : ring.spots.Pairwise
      fun earlier later => earlier.position < later.position)
    (start : UInt64) :
    (ring.walkFrom start).Pairwise fun earlier later =>
      distance start earlier.position < distance start later.position := by
  refine List.pairwise_append.2 ⟨?_, ?_, ?_⟩
  · refine (ascending.filter _).imp_of_mem fun first second less => ?_
    have above := of_decide_eq_true (List.mem_filter.1 first).2
    have alsoAbove := of_decide_eq_true (List.mem_filter.1 second).2
    rw [UInt64.lt_iff_toNat_lt, toNat_distance, toNat_distance, if_pos above,
      if_pos alsoAbove]
    rw [UInt64.le_iff_toNat_le] at above
    rw [UInt64.lt_iff_toNat_lt] at less
    omega
  · refine (ascending.filter _).imp_of_mem fun first second less => ?_
    have below := of_decide_eq_true (List.mem_filter.1 first).2
    have alsoBelow := of_decide_eq_true (List.mem_filter.1 second).2
    have small := start.toNat_lt
    rw [UInt64.lt_iff_toNat_lt, toNat_distance, toNat_distance,
      if_neg (UInt64.not_le.2 below), if_neg (UInt64.not_le.2 alsoBelow)]
    rw [UInt64.lt_iff_toNat_lt] at less
    omega
  · intro earlier first later second
    have above := of_decide_eq_true (List.mem_filter.1 first).2
    have below := of_decide_eq_true (List.mem_filter.1 second).2
    have small := earlier.position.toNat_lt
    rw [UInt64.lt_iff_toNat_lt, toNat_distance, toNat_distance, if_pos above,
      if_neg (UInt64.not_le.2 below)]
    rw [UInt64.le_iff_toNat_le] at above
    omega

/-- First occurrences come in the order of what they are the first occurrences of. -/
theorem pairwise_eraseDups_map
    {α β : Type}
    [BEq β]
    [LawfulBEq β]
    {precedes : α → α → Prop}
    (image : α → β)
    {values : List α}
    (ordered : values.Pairwise precedes) :
    (values.map image).eraseDups.Pairwise fun earlier later =>
      ∃ first ∈ values, image first = earlier ∧
        ∀ other ∈ values, image other = later → precedes first other := by
  induction length : values.length using Nat.strongRecOn generalizing values with
  | ind size ih =>
      cases values with
      | nil => exact List.Pairwise.nil
      | cons head rest =>
          subst length
          rcases List.pairwise_cons.1 ordered with ⟨least, others⟩
          let further := rest.filter fun other => !image other == image head
          have fewer : further.length < (head :: rest).length :=
            Nat.lt_succ_of_le (List.length_filter_le _ _)
          have images : (rest.map image).filter (fun other => !other == image head) =
              further.map image := List.filter_map
          have behind : ∀ {later}, later ∈ (further.map image).eraseDups →
              ∀ other ∈ head :: rest, image other = later → other ∈ further := by
            rintro later member other held rfl
            rw [List.mem_eraseDups] at member
            rcases List.mem_map.1 member with ⟨witness, kept, same⟩
            have differs := (List.mem_filter.1 kept).2
            rw [same] at differs
            rcases List.mem_cons.1 held with rfl | after
            · rw [beq_self_eq_true] at differs
              cases differs
            · exact List.mem_filter.2 ⟨after, differs⟩
          rw [List.map_cons, List.eraseDups_cons, images]
          refine List.pairwise_cons.2 ⟨fun later member => ?_, ?_⟩
          · refine ⟨head, List.mem_cons_self, rfl, fun other held same => ?_⟩
            have after := behind member other held same
            exact least other (List.mem_filter.1 after).1
          · refine (ih _ fewer (others.filter _) rfl).imp_of_mem ?_
            rintro earlier later - member ⟨first, kept, same, before⟩
            refine ⟨first, List.mem_cons_of_mem head (List.mem_filter.1 kept).1,
              same, fun other held its => ?_⟩
            exact before other (behind member other held its) its

/-- Whether a walk meets a position of one member before all of another. -/
def MetBefore
    (listed : List Endpoint)
    (share : Nat)
    (start : UInt64)
    (earlier later : Endpoint) :
    Prop :=
  ∃ first, Holds listed share earlier first ∧
    ∀ other, Holds listed share later other →
      distance start first < distance start other

theorem owners_met_in_order (listed : List Endpoint) (share : Nat) (key : List UInt8) :
    ((Ring.ofMembers listed share).owners key).Pairwise
      (MetBefore listed share (ringHash key)) := by
  rw [owners_eq_eraseDups]
  have ascends := walkFrom_ascends (ascending_spots listed share) (ringHash key)
  refine (pairwise_eraseDups_map Spot.holder ascends).imp ?_
  rintro earlier later ⟨spot, met, rfl, before⟩
  refine ⟨spot.position, mem_spots_iff.1 (mem_walkFrom.1 met), ?_⟩
  intro other holds
  exact before ⟨other, later⟩ (mem_walkFrom.2 (mem_spots_iff.2 holds)) rfl

/-- The owners of every key are the members that hold a position. -/
theorem mem_owners_iff {key : List UInt8} :
    member ∈ (Ring.ofMembers listed share).owners key ↔
      ∃ position, Holds listed share member position := by
  rw [← exists_spot_iff, owners_eq_eraseDups, List.mem_eraseDups, List.mem_map]
  constructor
  · rintro ⟨spot, met, same⟩
    exact ⟨spot, mem_walkFrom.1 met, same⟩
  · rintro ⟨spot, held, same⟩
    exact ⟨spot, mem_walkFrom.2 held, same⟩

theorem owners_perm_members
    (hold : ∀ member ∈ listed, ∃ position, Holds listed share member position)
    (key : List UInt8) :
    ((Ring.ofMembers listed share).owners key).Perm (distinctMembers listed) := by
  rw [List.perm_ext_iff_of_nodup (nodup_owners _ key)
    (nodup_distinctMembers listed)]
  intro member
  rw [mem_owners_iff, mem_distinctMembers]
  constructor
  · rintro ⟨position, holds⟩
    exact holds.among
  · exact hold member

theorem owners_eq_nil_iff {key : List UInt8} :
    (Ring.ofMembers listed share).owners key = [] ↔ listed = [] := by
  constructor
  · intro none
    by_contra filled
    rcases exists_holds filled share with ⟨member, position, holds⟩
    have owns : member ∈ (Ring.ofMembers listed share).owners key :=
      mem_owners_iff.2 ⟨position, holds⟩
    rw [none] at owns
    cases owns
  · rintro rfl
    refine List.eq_nil_iff_forall_not_mem.2 fun member owns => ?_
    rcases mem_owners_iff.1 owns with ⟨position, holds⟩
    cases holds.among

/--
The owners of a key are the members that hold a position, each once, in the
order in which a walk upward from the hash of the key first meets one of theirs;
a position is held by the lowest member with a label on it.  The walk that ends
with the last member has met the same owners as the whole walk, all members are
among them if each holds a position, and only a ring of nobody has none.
-/
theorem owners_list_holders_as_met
    (listed : List Endpoint)
    (share : Nat)
    (key : List UInt8) :
    ((Ring.ofMembers listed share).owners key).Nodup ∧
    (∀ member, member ∈ (Ring.ofMembers listed share).owners key ↔
      ∃ position, Holds listed share member position) ∧
    ((Ring.ofMembers listed share).owners key).Pairwise
      (MetBefore listed share (ringHash key)) ∧
    (∀ position member,
      Spot.mk position member ∈ (Ring.ofMembers listed share).spots ↔
        Holds listed share member position) ∧
    (Ring.ofMembers listed share).owners key =
      (((Ring.ofMembers listed share).walkFrom (ringHash key)).map
        Spot.holder).eraseDups ∧
    ((∀ member ∈ listed, ∃ position, Holds listed share member position) →
      ((Ring.ofMembers listed share).owners key).Perm
        (Ring.ofMembers listed share).members) ∧
    ((Ring.ofMembers listed share).owners key = [] ↔ listed = []) :=
  ⟨nodup_owners _ key, fun _ => mem_owners_iff,
    owners_met_in_order listed share key, fun _ _ => mem_spots_iff,
    owners_eq_eraseDups listed share key,
    fun hold => owners_perm_members hold key, owners_eq_nil_iff⟩

/-- Three members with two labels each, of which one is listed twice. -/
theorem owners_list_holders_as_met_three :
    let first : Endpoint := .v4 0x0A000001#32 8410
    let second : Endpoint := .v4 0x0A000002#32 8410
    let third : Endpoint := .v6 1#128 8410 0
    let listed := [third, first, second, first]
    (∀ member ∈ listed, ∃ position, Holds listed 2 member position) ∧
      ∀ key,
        ((Ring.ofMembers listed 2).owners key).Perm [first, second, third] ∧
          ((Ring.ofMembers listed 2).owners key).Pairwise
            (MetBefore listed 2 (ringHash key)) := by
  intro first second third listed
  have keeps : listed.all (keepsFirst listed 2) = true := by decide +kernel
  have hold : ∀ member ∈ listed, ∃ position, Holds listed 2 member position :=
    fun member among => exists_spot_iff.1 (holds_of_keepsFirst keeps member among)
  refine ⟨hold, fun key => ?_⟩
  rcases owners_list_holders_as_met listed 2 key with
    ⟨distinct, _, ordered, _, _, all, _⟩
  refine ⟨?_, ordered⟩
  rw [List.perm_ext_iff_of_nodup distinct (by decide)]
  intro member
  rw [(all hold).mem_iff, Ring.ofMembers, mem_distinctMembers]
  simp only [listed, List.mem_cons, List.not_mem_nil, or_false]
  tauto

end Ring

end QuotaRing.Cluster
