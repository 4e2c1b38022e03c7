import QuotaRing.Proofs.Cluster.Walk

/-!
# Rings of fewer members

When members leave a ring, or join it, the others keep their positions.  Main
statement: if no two members claim the same position, the owners of a key on the
ring of some of the members are its owners on the ring of all of them, in the
same order and without the members that are missing.  So a member that joins
takes over keys for itself alone, and the keys of one that leaves go to the
owners that came next.
-/

namespace QuotaRing.Cluster

open QuotaRing.Net (Endpoint)

/-- Whether no label of a member falls on the position of one of another member. -/
def LabelsApart (members : List Endpoint) (share : Nat) : Prop :=
  ∀ first ∈ members, ∀ second ∈ members, first ≠ second →
    ∀ spot ∈ claimedSpots share first, ∀ other ∈ claimedSpots share second,
      spot.position ≠ other.position

instance (members : List Endpoint) (share : Nat) :
    Decidable (LabelsApart members share) :=
  inferInstanceAs (Decidable (∀ first ∈ members, ∀ second ∈ members, _ → _))

/-! ## Lists of first occurrences -/

/-- What is left out does not change which of the others comes first. -/
theorem eraseDups_filter
    {α : Type}
    [BEq α]
    [LawfulBEq α]
    (keeps : α → Bool)
    (values : List α) :
    (values.filter keeps).eraseDups = values.eraseDups.filter keeps := by
  induction length : values.length using Nat.strongRecOn generalizing values with
  | ind size ih =>
      cases values with
      | nil => rfl
      | cons first rest =>
          subst length
          have fewer : (rest.filter fun other => !other == first).length <
              (first :: rest).length :=
            Nat.lt_succ_of_le (List.length_filter_le _ _)
          have others := ih _ fewer _ rfl
          rw [List.eraseDups_cons]
          by_cases kept : keeps first = true
          · rw [List.filter_cons_of_pos kept, List.filter_cons_of_pos kept,
              List.eraseDups_cons, List.filter_comm, others]
          · rw [List.filter_cons_of_neg kept, List.filter_cons_of_neg kept,
              ← others, List.filter_filter]
            congr 1
            apply List.filter_congr
            intro other member
            by_cases same : other = first
            · subst same
              simp [kept]
            · simp [same]

namespace Ring

/-- Whoever is met first is the first of those that have not been found. -/
theorem eraseDups_unknown
    {found : List Endpoint}
    {holder : Endpoint}
    (unknown : ¬ found.contains holder = true)
    (others : List Endpoint) :
    ((holder :: others).filter (!found.contains ·)).eraseDups =
      holder :: (others.filter (!(found ++ [holder]).contains ·)).eraseDups := by
  rw [List.filter_cons_of_pos (by simpa using unknown), List.eraseDups_cons,
    List.filter_filter]
  congr 2
  apply List.filter_congr
  intro other member
  rw [List.contains_append, Bool.not_or, Bool.and_comm, List.contains_cons,
    List.contains_nil, Bool.or_false]

/-- If all holders are members, a walk meets every holder once, as it comes. -/
theorem meet_eq_append_eraseDups
    {members found : List Endpoint}
    {spots : List Spot}
    (distinct : found.Nodup)
    (among : found ⊆ members)
    (held : ∀ spot ∈ spots, spot.holder ∈ members) :
    meet members.length found spots =
      found ++
        ((spots.map Spot.holder).filter (!found.contains ·)).eraseDups := by
  fun_induction meet members.length found spots with
  | case1 found => simp
  | case2 found spot rest known ih =>
      rw [ih distinct among fun later member =>
        held later (List.mem_cons_of_mem spot member), List.map_cons,
        List.filter_cons_of_neg (by simpa using known)]
  | case3 found spot rest unknown longer full =>
      have longerDistinct := nodup_concat distinct unknown
      have longerAmong := concat_subset among (held spot List.mem_cons_self)
      have nobody : (rest.map Spot.holder).filter (!longer.contains ·) = [] := by
        apply List.filter_eq_nil_iff.2
        intro holder met
        rcases List.mem_map.1 met with ⟨later, member, rfl⟩
        have known := mem_of_full longerDistinct longerAmong full
          (held later (List.mem_cons_of_mem spot member))
        rw [List.contains_iff_mem.2 known]
        exact Bool.false_ne_true
      rw [List.map_cons, eraseDups_unknown unknown, nobody, List.eraseDups_nil]
  | case4 found spot rest unknown longer short ih =>
      rw [ih (nodup_concat distinct unknown)
        (concat_subset among (held spot List.mem_cons_self))
        fun later member => held later (List.mem_cons_of_mem spot member),
        List.map_cons, eraseDups_unknown unknown, List.append_cons]

/-- The owners of a key are the holders in the order of the walk, each once. -/
theorem owners_eq_eraseDups
    (listed : List Endpoint)
    (share : Nat)
    (key : List UInt8) :
    (Ring.ofMembers listed share).owners key =
      (((Ring.ofMembers listed share).walkFrom (ringHash key)).map
        Spot.holder).eraseDups := by
  have held : ∀ spot ∈ (Ring.ofMembers listed share).walkFrom (ringHash key),
      spot.holder ∈ (Ring.ofMembers listed share).members := by
    intro spot met
    exact mem_distinctMembers.2 (claimed_of_mem_spots (mem_walkFrom.1 met)).1
  rw [owners, meet_eq_append_eraseDups List.nodup_nil (List.nil_subset _) held,
    List.nil_append, List.filter_eq_self.2 (by simp)]

end Ring

/-! ## Positions of the members that stay -/

variable
    {share : Nat}

/-- The claims of some members are those claims of all that are theirs. -/
theorem filter_flatMap_claimedSpots
    (keeps : Endpoint → Bool)
    (members : List Endpoint) :
    (members.flatMap (claimedSpots share)).filter (keeps ·.holder) =
      (members.filter keeps).flatMap (claimedSpots share) := by
  induction members with
  | nil => rfl
  | cons first rest ih =>
      have own : ∀ spot ∈ claimedSpots share first,
          keeps spot.holder = keeps first := fun spot claimed =>
        congrArg keeps (holder_of_mem_claimedSpots claimed)
      rw [List.flatMap_cons, List.filter_append, ih]
      by_cases kept : keeps first = true
      · rw [List.filter_cons_of_pos kept, List.flatMap_cons,
          List.filter_eq_self.2 fun spot claimed => (own spot claimed).trans kept]
      · rw [List.filter_cons_of_neg kept,
          List.filter_eq_nil_iff.2 fun spot claimed =>
            (own spot claimed).symm ▸ kept,
          List.nil_append]

theorem claims_of_subset
    {fewer listed : List Endpoint}
    (subset : fewer ⊆ listed)
    (share : Nat) :
    claims fewer share =
      (claims listed share).filter (fewer.contains ·.holder) := by
  have members : (distinctMembers fewer).Perm
      ((distinctMembers listed).filter fewer.contains) := by
    rw [List.perm_ext_iff_of_nodup (nodup_distinctMembers fewer)
      ((nodup_distinctMembers listed).filter _)]
    intro member
    rw [List.mem_filter, mem_distinctMembers, mem_distinctMembers,
      List.contains_iff_mem]
    exact ⟨fun stays => ⟨subset stays, stays⟩, fun both => both.2⟩
  have perm := calc
    List.Perm (claims fewer share)
        ((distinctMembers fewer).flatMap (claimedSpots share)) :=
      List.mergeSort_perm _ _
    List.Perm _ (((distinctMembers listed).filter fewer.contains).flatMap
        (claimedSpots share)) := members.flatMap_right _
    _ = ((distinctMembers listed).flatMap (claimedSpots share)).filter
        (fewer.contains ·.holder) :=
      (filter_flatMap_claimedSpots fewer.contains _).symm
    List.Perm _ ((claims listed share).filter (fewer.contains ·.holder)) :=
      ((List.mergeSort_perm _ _).filter _).symm
  exact Spot.ranked.eq_of_perm perm (ordered_claims fewer share)
    ((ordered_claims listed share).filter _)

/-- In an ordered list the spots at its first position are those that are dropped. -/
theorem dropWhile_position_eq_filter
    {spots : List Spot}
    {position : UInt64}
    (sorted : spots.Pairwise fun earlier later =>
      earlier.position ≤ later.position)
    (above : ∀ spot ∈ spots, position ≤ spot.position) :
    spots.dropWhile (·.position == position) =
      spots.filter (·.position != position) := by
  induction spots with
  | nil => rfl
  | cons first rest ih =>
      rcases List.pairwise_cons.1 sorted with ⟨least, others⟩
      by_cases same : first.position = position
      · rw [List.dropWhile_cons_of_pos (by simpa using same),
          List.filter_cons_of_neg (by simpa using same),
          ih others fun spot later => above spot (List.mem_cons_of_mem first later)]
      · have beyond : position < first.position :=
          UInt64.lt_of_le_of_ne (above first List.mem_cons_self) (Ne.symm same)
        rw [List.dropWhile_cons_of_neg (by simpa using same)]
        symm
        apply List.filter_eq_self.2
        intro spot member
        rw [bne_iff_ne]
        rcases List.mem_cons.1 member with rfl | later
        · exact same
        · exact (UInt64.ne_of_lt
            (UInt64.lt_of_lt_of_le beyond (least spot later))).symm

/-- If only one member claims each position, the others do not matter for it. -/
theorem firstAtEach_filter
    (keeps : Endpoint → Bool)
    {spots : List Spot}
    (sorted : spots.Pairwise fun earlier later =>
      earlier.position ≤ later.position)
    (single : ∀ spot ∈ spots, ∀ other ∈ spots,
      spot.position = other.position → spot.holder = other.holder) :
    firstAtEach (spots.filter (keeps ·.holder)) =
      (firstAtEach spots).filter (keeps ·.holder) := by
  induction spots with
  | nil => rfl
  | cons first rest ih =>
      rcases List.pairwise_cons.1 sorted with ⟨least, others⟩
      have same := ih others fun spot held other also =>
        single spot (List.mem_cons_of_mem first held) other
          (List.mem_cons_of_mem first also)
      let theirs : Spot → Bool := fun spot => keeps spot.holder
      have kept := firstAtEach_sublist rest
      have dropped := dropWhile_position_eq_filter (others.sublist kept)
        fun spot held => least spot (kept.subset held)
      by_cases stays : theirs first = true
      · have droppedToo := dropWhile_position_eq_filter
          ((others.sublist kept).filter theirs)
          fun spot held => least spot (kept.subset (List.mem_filter.1 held).1)
        rw [List.filter_cons_of_pos stays, firstAtEach, firstAtEach, same,
          List.filter_cons_of_pos stays, droppedToo, dropped, List.filter_comm]
      · rw [List.filter_cons_of_neg stays, firstAtEach,
          List.filter_cons_of_neg stays, same, dropped, List.filter_filter]
        apply List.filter_congr
        intro spot held
        have its := single spot (List.mem_cons_of_mem first (kept.subset held))
          first List.mem_cons_self
        by_cases there : spot.position = first.position
        · have gone : keeps spot.holder = false :=
            (congrArg keeps (its there)).trans (Bool.eq_false_iff.2 stays)
          simp only [theirs, gone, Bool.false_and]
        · rw [bne_iff_ne.2 there, Bool.and_true]

namespace Ring

variable {fewer listed : List Endpoint}

/-- The positions on a ring of fewer members are those that its members held. -/
theorem spots_of_subset
    (subset : fewer ⊆ listed)
    (apart : LabelsApart listed share) :
    (Ring.ofMembers fewer share).spots =
      (Ring.ofMembers listed share).spots.filter
        (fewer.contains ·.holder) := by
  have single : ∀ spot ∈ claims listed share, ∀ other ∈ claims listed share,
      spot.position = other.position → spot.holder = other.holder := by
    intro spot claimed other alsoClaimed same
    rcases mem_claims.1 claimed with ⟨among, its⟩
    rcases mem_claims.1 alsoClaimed with ⟨alsoAmong, theirs⟩
    by_contra different
    exact apart spot.holder among other.holder alsoAmong different
      spot its other theirs same
  have sorted := (ordered_claims listed share).imp Spot.position_le_of_precedes
  rw [ofMembers, ofMembers, claims_of_subset subset]
  exact firstAtEach_filter fewer.contains sorted single

/-- The owners on a ring of fewer members are the owners that stay, in order. -/
theorem owners_of_subset
    (subset : fewer ⊆ listed)
    (apart : LabelsApart listed share)
    (key : List UInt8) :
    (Ring.ofMembers fewer share).owners key =
      ((Ring.ofMembers listed share).owners key).filter fewer.contains := by
  have walk : (Ring.ofMembers fewer share).walkFrom (ringHash key) =
      ((Ring.ofMembers listed share).walkFrom (ringHash key)).filter
        (fewer.contains ·.holder) := by
    rw [walkFrom, walkFrom, spots_of_subset subset apart, List.filter_append]
    exact congrArg₂ (· ++ ·) (List.filter_comm _ _ _) (List.filter_comm _ _ _)
  rw [owners_eq_eraseDups, owners_eq_eraseDups, walk, ← eraseDups_filter,
    List.filter_map]
  rfl

/-- Whoever is the first owner and stays is the first owner still. -/
theorem primary?_of_stays
    (subset : fewer ⊆ listed)
    (apart : LabelsApart listed share)
    (key : List UInt8)
    (stays : ∀ first,
      (Ring.ofMembers listed share).primary? key = some first → first ∈ fewer) :
    (Ring.ofMembers fewer share).primary? key =
      (Ring.ofMembers listed share).primary? key := by
  rw [primary?, primary?, owners_of_subset subset apart]
  cases owners : (Ring.ofMembers listed share).owners key with
  | nil => rfl
  | cons first rest =>
      rw [primary?, owners] at stays
      rw [List.filter_cons_of_pos (List.contains_iff_mem.2 (stays first rfl))]
      rfl

/-- The keys of a first owner that leaves go to the owners that came next. -/
theorem primary?_of_leaves
    {member : Endpoint}
    (others : ∀ other, other ∈ fewer ↔ other ∈ listed ∧ other ≠ member)
    (apart : LabelsApart listed share)
    (key : List UInt8)
    (leaves : (Ring.ofMembers listed share).primary? key = some member) :
    (Ring.ofMembers fewer share).primary? key =
      ((Ring.ofMembers listed share).owners key)[1]? := by
  have subset : fewer ⊆ listed := fun other stays => ((others other).1 stays).1
  have distinct := nodup_owners (Ring.ofMembers listed share) key
  have among : ∀ other ∈ (Ring.ofMembers listed share).owners key,
      other ∈ listed := fun other owns => mem_of_mem_owners owns
  rw [primary?] at leaves ⊢
  rw [owners_of_subset subset apart]
  cases owners : (Ring.ofMembers listed share).owners key with
  | nil => rfl
  | cons first rest =>
      rw [owners] at leaves distinct among
      cases leaves
      have gone : ¬ fewer.contains member = true := fun stays =>
        ((others member).1 (List.contains_iff_mem.1 stays)).2 rfl
      have stay : ∀ other ∈ rest, fewer.contains other = true := by
        intro other later
        apply List.contains_iff_mem.2
        refine (others other).2 ⟨among other (List.mem_cons_of_mem _ later), ?_⟩
        rintro rfl
        exact (List.nodup_cons.1 distinct).1 later
      rw [List.filter_cons_of_neg gone, List.filter_eq_self.2 stay,
        List.getElem?_cons_succ, List.head?_eq_getElem?]

/--
The owners of a key on the ring of some members are its owners on the ring of
more members without those that are missing, if the labels of different members
are apart.  So a member that is added becomes the first owner of keys or leaves
their first owners alone, and a member that is removed leaves alone the keys that
it was not the first owner of, and the others go to the owner that came next.
-/
theorem relocates_minimally
    (listed : List Endpoint)
    (share : Nat)
    (key : List UInt8)
    (apart : LabelsApart listed share) :
    (∀ fewer ⊆ listed,
      (Ring.ofMembers fewer share).owners key =
        ((Ring.ofMembers listed share).owners key).filter fewer.contains) ∧
    (∀ before added,
      (∀ other, other ∈ listed ↔ other = added ∨ other ∈ before) →
        (Ring.ofMembers listed share).primary? key = some added ∨
          (Ring.ofMembers listed share).primary? key =
            (Ring.ofMembers before share).primary? key) ∧
    ∀ rest removed,
      (∀ other, other ∈ rest ↔ other ∈ listed ∧ other ≠ removed) →
        (Ring.ofMembers rest share).primary? key =
          if (Ring.ofMembers listed share).primary? key = some removed then
            ((Ring.ofMembers listed share).owners key)[1]?
          else (Ring.ofMembers listed share).primary? key := by
  have among : ∀ first,
      (Ring.ofMembers listed share).primary? key = some first →
        first ∈ listed := by
    intro first found
    exact mem_of_mem_owners (List.mem_of_mem_head? found)
  refine ⟨fun fewer subset => owners_of_subset subset apart key, ?_, ?_⟩
  · intro before added grown
    by_cases new : (Ring.ofMembers listed share).primary? key = some added
    · exact .inl new
    · refine .inr (primary?_of_stays
        (fun other held => (grown other).2 (.inr held)) apart key ?_).symm
      intro first found
      rcases (grown first).1 (among first found) with rfl | held
      · exact absurd found new
      · exact held
  · intro rest removed shrunk
    by_cases gone : (Ring.ofMembers listed share).primary? key = some removed
    · rw [if_pos gone]
      exact primary?_of_leaves shrunk apart key gone
    · rw [if_neg gone]
      apply primary?_of_stays (fun other held => ((shrunk other).1 held).1) apart
      intro first found
      refine (shrunk first).2 ⟨among first found, ?_⟩
      rintro rfl
      exact gone found

/-- Of three members with two positions each, one leaves and joins again. -/
theorem relocates_minimally_three :
    let first : Endpoint := .v4 0x0A000001#32 8410
    let second : Endpoint := .v4 0x0A000002#32 8410
    let third : Endpoint := .v4 0x0A000003#32 8410
    let listed := [first, second, third]
    let rest := [third, first]
    LabelsApart listed 2 ∧ ∀ key,
      (Ring.ofMembers rest 2).owners key =
          ((Ring.ofMembers listed 2).owners key).filter rest.contains ∧
        ((Ring.ofMembers listed 2).primary? key = some second ∨
          (Ring.ofMembers listed 2).primary? key =
            (Ring.ofMembers rest 2).primary? key) ∧
        (Ring.ofMembers rest 2).primary? key =
          if (Ring.ofMembers listed 2).primary? key = some second then
            ((Ring.ofMembers listed 2).owners key)[1]?
          else (Ring.ofMembers listed 2).primary? key := by
  intro first second third listed rest
  have apart : LabelsApart listed 2 := by decide +kernel
  refine ⟨apart, fun key => ?_⟩
  rcases relocates_minimally listed 2 key apart with ⟨fewer, added, removed⟩
  refine ⟨fewer rest (by decide), added rest second ?_, removed rest second ?_⟩
  · intro other
    simp only [listed, rest, List.mem_cons, List.not_mem_nil, or_false]
    tauto
  · intro other
    simp only [listed, rest, List.mem_cons, List.not_mem_nil, or_false]
    constructor
    · rintro (rfl | rfl)
      · exact ⟨.inr (.inr rfl), by decide⟩
      · exact ⟨.inl rfl, by decide⟩
    · rintro ⟨rfl | rfl | rfl, different⟩
      · exact .inr rfl
      · exact absurd rfl different
      · exact .inl rfl

end Ring

end QuotaRing.Cluster
