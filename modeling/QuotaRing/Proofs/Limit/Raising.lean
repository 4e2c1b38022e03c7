import Mathlib.Data.List.Perm.Subperm
import QuotaRing.Proofs.Limit.Tracking

/-!
# Limits that are raised

Two windows of the same length count the same hits, one of them against a
larger limit.  It allows hits that the other one refuses, and these take up
places.  Main statement: whatever one window allows, the more generous one
allows too.

The invariant bounds what the more generous window holds beyond the other: no
more hits than its limit is larger.  A hit that it alone allows uses up some of
that, but only while the other window is full.
-/

namespace QuotaRing.Limit

/-- Taking out the same from both loses no more of the smaller of two lists. -/
theorem length_filter_add_length_le
    {α : Type}
    {fewer more : List α}
    (subperm : fewer.Subperm more)
    (keeps : α → Bool) :
    (more.filter keeps).length + fewer.length ≤
      (fewer.filter keeps).length + more.length := by
  have taken := (subperm.filter fun value => !keeps value).length_le
  have parts := List.length_eq_length_filter_add (l := fewer) keeps
  have others := List.length_eq_length_filter_add (l := more) keeps
  omega

namespace Window

/--
Whether a window holds the hits of another one, and beyond them no more than its
limit is larger.
-/
structure Trails (strict generous : Window) : Prop where
  sorted : strict.hits.Pairwise (· ≤ ·)
  sortedGenerous : generous.hits.Pairwise (· ≤ ·)
  unit_eq : strict.quota.unit = generous.quota.unit
  subperm : strict.hits.Subperm generous.hits
  spare :
    generous.hits.length + strict.quota.value.toNat ≤
      strict.hits.length + generous.quota.value.toNat

namespace Trails

variable {strict generous : Window}

theorem cutoff_eq (trails : strict.Trails generous) (stamp : Int64) :
    strict.cutoff stamp = generous.cutoff stamp :=
  congrArg (fun unit : TimeUnit => Saturating.sub stamp unit.millis)
    trails.unit_eq

theorem kept_subperm (trails : strict.Trails generous) (stamp : Int64) :
    (strict.kept stamp).Subperm (generous.kept stamp) := by
  rw [kept, kept, trails.cutoff_eq]
  exact trails.subperm.filter _

/-- What is taken out for its age leaves as much to spare. -/
theorem spare_kept (trails : strict.Trails generous) (stamp : Int64) :
    (generous.kept stamp).length + strict.quota.value.toNat ≤
      (strict.kept stamp).length + generous.quota.value.toNat := by
  have lost := length_filter_add_length_le trails.subperm
    (generous.cutoff stamp < ·)
  have spare := trails.spare
  rw [kept, kept, trails.cutoff_eq]
  omega

/-- A hit is allowed by the more generous window if it is by the other. -/
theorem allowed (trails : strict.Trails generous) (stamp : Int64) :
    (strict.track stamp).2.allowed = true →
      (generous.track stamp).2.allowed = true := by
  have spare := trails.spare_kept stamp
  rw [(tracked_track trails.sorted stamp).allowed_iff,
    (tracked_track trails.sortedGenerous stamp).allowed_iff]
  omega

/-- A hit that only the more generous window allows meets the other one full. -/
theorem track (trails : strict.Trails generous) (stamp : Int64) :
    (strict.track stamp).1.Trails (generous.track stamp).1 := by
  have tracked := tracked_track trails.sorted stamp
  have trackedGenerous := tracked_track trails.sortedGenerous stamp
  have implies := trails.allowed stamp
  have spare := trails.spare_kept stamp
  refine ⟨tracked.sorted, trackedGenerous.sorted, ?_, ?_, ?_⟩
  · rw [tracked.quota_eq, trackedGenerous.quota_eq]
    exact trails.unit_eq
  · refine tracked.perm.subperm.trans (.trans ?_ trackedGenerous.perm.symm.subperm)
    refine .append ?_ (trails.kept_subperm stamp)
    by_cases allowed : (strict.track stamp).2.allowed = true
    · rw [if_pos allowed, if_pos (implies allowed)]
    · rw [if_neg allowed]
      exact (List.nil_sublist _).subperm
  · rw [tracked.length_eq, trackedGenerous.length_eq, tracked.quota_eq,
      trackedGenerous.quota_eq]
    by_cases allowed : (strict.track stamp).2.allowed = true
    · rw [if_pos allowed, if_pos (implies allowed)]
      omega
    · rw [if_neg allowed]
      rw [tracked.allowed_iff] at allowed
      split
      · next allowedGenerous =>
          -- one place less to spare, and there is one since the other is full
          rw [trackedGenerous.allowed_iff] at allowedGenerous
          omega
      · omega

/-- Every hit is allowed by the more generous window if it is by the other. -/
theorem verdicts (trails : strict.Trails generous) (stamps : List Int64) :
    List.Forall₂ (fun less more => less.allowed = true → more.allowed = true)
      (strict.verdicts stamps) (generous.verdicts stamps) := by
  induction stamps generalizing strict generous with
  | nil => exact .nil
  | cons stamp rest ih => exact .cons (trails.allowed stamp) (ih (trails.track stamp))

end Trails

end Window

/--
Two fresh windows of the same length count the same hits, whatever order their
stamps come in.  Each hit that the one with the lower limit allows is allowed by
the other one too.
-/
theorem raised_limit_allows
    (lower higher : Quota)
    (unit_eq : lower.unit = higher.unit)
    (raised : lower.value ≤ higher.value)
    (stamps : List Int64) :
    List.Forall₂ (fun less more => less.allowed = true → more.allowed = true)
      ((Window.fresh lower).verdicts stamps)
      ((Window.fresh higher).verdicts stamps) := by
  have trails : (Window.fresh lower).Trails (Window.fresh higher) :=
    ⟨.nil, .nil, unit_eq, .refl _,
      Nat.add_le_add_left (UInt32.le_iff_toNat_le.1 raised) 0⟩
  exact trails.verdicts stamps

/--
The third hit is allowed under the higher limit alone, and has a place when the
fourth is allowed under both.
-/
theorem raised_limit_allows_secondly :
    let lower : Quota := { id := "search", unit := .second, value := 2 }
    let higher : Quota := { lower with value := 3 }
    let stamps : List Int64 :=
      [1700000000000, 1700000000100, 1700000000200, 1700000001000]
    (((Window.fresh lower).verdicts stamps).map Verdict.allowed =
        [true, true, false, true] ∧
      ((Window.fresh higher).verdicts stamps).map Verdict.allowed =
        [true, true, true, true]) ∧
      List.Forall₂ (fun less more => less.allowed = true → more.allowed = true)
        ((Window.fresh lower).verdicts stamps)
        ((Window.fresh higher).verdicts stamps) := by
  intro lower higher stamps
  exact ⟨by decide +kernel, raised_limit_allows lower higher rfl (by decide) stamps⟩

end QuotaRing.Limit
