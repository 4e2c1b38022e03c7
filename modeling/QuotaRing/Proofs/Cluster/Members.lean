import Mathlib.Data.Nat.Basic
import Mathlib.Order.Lattice
import QuotaRing.Cluster.View

/-!
# Members in order

Endpoints and spots are ordered by a rank that tells them apart, so sorting them
leaves no choice.  The members of a ring are listed in order and each once, so
lists with the same members make the same ring, however they are ordered and
whatever they repeat.  Nodes whose views have the same members therefore agree on
the owners of every key.
-/

namespace QuotaRing

open QuotaRing.Net (Endpoint)

/-! ## Orders given by a rank -/

/-- Whether values precede each other by a rank that tells them apart. -/
structure RankedBy
    {α β : Type}
    [LinearOrder β]
    (precedes : α → α → Bool)
    (rank : α → β) :
    Prop where
  precedes_iff : ∀ {left right},
    precedes left right = true ↔ rank left ≤ rank right
  rank_injective : Function.Injective rank

namespace RankedBy

variable
    {α β : Type}
    [LinearOrder β]
    {precedes : α → α → Bool}
    {rank : α → β}

theorem precedes_refl (ranked : RankedBy precedes rank) (value : α) :
    precedes value value = true :=
  ranked.precedes_iff.2 (le_refl _)

theorem precedes_antisymm
    (ranked : RankedBy precedes rank)
    {left right : α}
    (forth : precedes left right = true)
    (back : precedes right left = true) :
    left = right := by
  rw [ranked.precedes_iff] at forth back
  exact ranked.rank_injective (le_antisymm forth back)

theorem pairwise_mergeSort
    (ranked : RankedBy precedes rank)
    (values : List α) :
    (values.mergeSort precedes).Pairwise
      fun earlier later => precedes earlier later = true := by
  apply List.pairwise_mergeSort
  · intro first second third earlier later
    rw [ranked.precedes_iff] at earlier later ⊢
    exact le_trans earlier later
  · intro left right
    rw [Bool.or_eq_true, ranked.precedes_iff, ranked.precedes_iff]
    exact le_total _ _

/-- Values can be put in order in one way alone. -/
theorem eq_of_perm
    (ranked : RankedBy precedes rank)
    {left right : List α}
    (perm : left.Perm right)
    (sorted : left.Pairwise fun earlier later => precedes earlier later = true)
    (sortedToo : right.Pairwise
      fun earlier later => precedes earlier later = true) :
    left = right :=
  perm.eq_of_pairwise
    (fun _ _ _ _ forth back => ranked.precedes_antisymm forth back)
    sorted sortedToo

end RankedBy

theorem Net.Endpoint.ranked : RankedBy Endpoint.precedes Endpoint.rank where
  precedes_iff := decide_eq_true_iff
  rank_injective := fun _ _ same => Endpoint.rank_injective same

/-! ## Distinct members -/

namespace Cluster

theorem nodup_eraseDups
    {α : Type}
    [BEq α]
    [LawfulBEq α]
    (values : List α) :
    values.eraseDups.Nodup := by
  induction length : values.length using Nat.strongRecOn generalizing values with
  | ind size ih =>
      cases values with
      | nil => exact List.nodup_nil
      | cons first rest =>
          subst length
          rw [List.eraseDups_cons]
          have fewer : (rest.filter fun other => !other == first).length <
              (first :: rest).length :=
            Nat.lt_succ_of_le (List.length_filter_le _ _)
          refine List.nodup_cons.2 ⟨?_, ih _ fewer _ rfl⟩
          rw [List.mem_eraseDups, List.mem_filter]
          rintro ⟨_, different⟩
          rw [beq_self_eq_true] at different
          cases different

theorem mem_distinctMembers
    {members : List Endpoint}
    {member : Endpoint} :
    member ∈ distinctMembers members ↔ member ∈ members := by
  rw [distinctMembers, List.mem_mergeSort, List.mem_eraseDups]

theorem nodup_distinctMembers (members : List Endpoint) :
    (distinctMembers members).Nodup :=
  (List.mergeSort_perm _ _).nodup_iff.2 (nodup_eraseDups members)

theorem ordered_distinctMembers (members : List Endpoint) :
    (distinctMembers members).Pairwise
      fun earlier later => earlier.precedes later = true :=
  Endpoint.ranked.pairwise_mergeSort _

/-- The members of a ring ascend. -/
theorem ascending_distinctMembers (members : List Endpoint) :
    (distinctMembers members).Pairwise
      fun earlier later => earlier.rank < later.rank := by
  refine ((ordered_distinctMembers members).and
    (nodup_distinctMembers members)).imp ?_
  rintro earlier later ⟨precedes, differ⟩
  exact Nat.lt_of_le_of_ne (Endpoint.ranked.precedes_iff.1 precedes)
    fun same => differ (Endpoint.rank_injective same)

/-- The list of distinct members depends on which members there are alone. -/
theorem distinctMembers_congr
    {left right : List Endpoint}
    (same : ∀ member, member ∈ left ↔ member ∈ right) :
    distinctMembers left = distinctMembers right := by
  apply Endpoint.ranked.eq_of_perm _ (ordered_distinctMembers left)
    (ordered_distinctMembers right)
  rw [List.perm_ext_iff_of_nodup (nodup_distinctMembers left)
    (nodup_distinctMembers right)]
  intro member
  rw [mem_distinctMembers, mem_distinctMembers]
  exact same member

theorem Ring.ofMembers_congr
    {left right : List Endpoint}
    (same : ∀ member, member ∈ left ↔ member ∈ right)
    (share : Nat) :
    Ring.ofMembers left share = Ring.ofMembers right share := by
  rw [Ring.ofMembers, Ring.ofMembers, claims, claims, distinctMembers_congr same]

end Cluster

end QuotaRing
