import QuotaRing.Proofs.Cluster.Preference

/-!
# Agreement on placement

A node may be given other members any number of times.  Its view depends on its
own address and on the members it was given last: nothing of its earlier views
is left in it.  Main statement: nodes of whom the last members, each with the
node itself, are the same set list the same members and ask the same owners in
the same order for every key.
-/

namespace QuotaRing.Cluster

open QuotaRing.Net (Endpoint)
open QuotaRing.Store (Key)

namespace View

/--
The views that a node may come to, whatever it was given before the members
that are listed.
-/
inductive Follows (self : Endpoint) : List Endpoint → View → Prop
  | opened (listed : List Endpoint) (version : UInt64) :
      Follows self listed (.ofMembers self listed version)
  | updated
      {before : List Endpoint}
      {view : View}
      (earlier : Follows self before view)
      (room : view.version.toNat + 1 < 0x10000000000000000)
      (listed : List Endpoint) :
      Follows self listed (view.update listed)

variable
    {self : Endpoint}
    {listed : List Endpoint}
    {view : View}

theorem mem_withSelf {member : Endpoint} :
    member ∈ withSelf self listed ↔ member = self ∨ member ∈ listed := by
  rw [withSelf]
  split
  case isTrue known =>
    constructor
    · exact .inr
    · rintro (rfl | among)
      · exact List.contains_iff_mem.1 known
      · exact among
  case isFalse =>
    rw [List.mem_append, List.mem_singleton]
    exact or_comm

namespace Follows

theorem self_eq (follows : Follows self listed view) : view.self = self := by
  induction follows with
  | opened listed version => rfl
  | updated earlier room listed ih => exact ih

/-- The ring of a view is the ring of the members listed last. -/
theorem ring_eq (follows : Follows self listed view) :
    view.ring = Ring.ofMembers (withSelf self listed) defaultShare := by
  cases follows with
  | opened version => rfl
  | updated earlier room =>
      rw [update, ofMembers, earlier.self_eq]

theorem mem_members (follows : Follows self listed view) {member : Endpoint} :
    member ∈ view.members ↔ member = self ∨ member ∈ listed := by
  rw [members, follows.ring_eq, ← mem_withSelf]
  exact mem_distinctMembers

theorem ascending_members (follows : Follows self listed view) :
    view.members.Pairwise fun earlier later => earlier.rank < later.rank := by
  rw [members, follows.ring_eq]
  exact ascending_distinctMembers _

/-- A node that is a member itself always finds an owner. -/
theorem owners_ne_nil
    (follows : Follows self listed view)
    (key : Key) :
    view.owners key ≠ [] := by
  rw [owners, follows.ring_eq]
  intro none
  have nobody := Ring.owners_eq_nil_iff.1 none
  have own : self ∈ withSelf self listed := mem_withSelf.2 (.inl rfl)
  rw [nobody] at own
  cases own

/-- The member that is asked first is the first owner. -/
theorem head_owners
    (follows : Follows self listed view)
    (key : Key) :
    (view.owners key).head? = some (view.primary key) := by
  cases owners : view.owners key with
  | nil => exact absurd owners (follows.owners_ne_nil key)
  | cons first rest =>
      have found : view.ring.primary? key.bytes = some first :=
        congrArg List.head? owners
      rw [primary, found]
      rfl

end Follows

/--
Two nodes that were last given members that are, each with the node itself, the
same set list the same members in order, each once and itself among them, and
ask the same owners for every key.
-/
theorem agree_on_placement
    {other : Endpoint}
    {otherListed : List Endpoint}
    {otherView : View}
    (follows : Follows self listed view)
    (otherFollows : Follows other otherListed otherView)
    (same : ∀ member,
      (member = self ∨ member ∈ listed) ↔ (member = other ∨ member ∈ otherListed)) :
    view.members = otherView.members ∧
    (view.members.Pairwise fun earlier later => earlier.rank < later.rank) ∧
    (∀ member, member ∈ view.members ↔ member = self ∨ member ∈ listed) ∧
    view.self ∈ view.members ∧
    otherView.self ∈ otherView.members ∧
    ∀ key,
      view.owners key = otherView.owners key ∧
      view.primary key = otherView.primary key := by
  have rings : view.ring = otherView.ring := by
    rw [follows.ring_eq, otherFollows.ring_eq]
    apply Ring.ofMembers_congr
    intro member
    rw [mem_withSelf, mem_withSelf]
    exact same member
  refine ⟨congrArg Ring.members rings, follows.ascending_members,
    fun _ => follows.mem_members, ?_, ?_, fun key => ?_⟩
  · rw [follows.self_eq]
    exact follows.mem_members.2 (.inl rfl)
  · rw [otherFollows.self_eq]
    exact otherFollows.mem_members.2 (.inl rfl)
  · have owners : view.owners key = otherView.owners key :=
      congrArg (Ring.owners · key.bytes) rings
    refine ⟨owners, Option.some.inj ?_⟩
    rw [← follows.head_owners, ← otherFollows.head_owners, owners]

/--
One node was told of the other from the start, the other met it only after a
third had come and gone.
-/
theorem agree_on_placement_after_updates :
    let first : Endpoint := .v4 0x0A000001#32 8410
    let second : Endpoint := .v4 0x0A000002#32 8410
    let third : Endpoint := .v6 1#128 8410 0
    let view := View.ofMembers first [second, second, first] 7
    let otherView := ((View.alone second).update [third]).update [first]
    view.members = otherView.members ∧
      first ∈ otherView.members ∧ third ∉ otherView.members ∧
      ∀ key, view.owners key = otherView.owners key ∧
        view.primary key = otherView.primary key := by
  intro first second third view otherView
  have follows : Follows first [second, second, first] view :=
    .opened [second, second, first] 7
  have otherFollows : Follows second [first] otherView :=
    .updated (.updated (.opened [] 0) (by decide) [third]) (by decide) [first]
  rcases agree_on_placement follows otherFollows (by
      intro member
      simp only [List.mem_cons, List.not_mem_nil, or_false]
      tauto) with
    ⟨members, _, among, own, _, placed⟩
  refine ⟨members, members ▸ own, ?_, placed⟩
  rw [← members, among]
  decide

end View

end QuotaRing.Cluster
