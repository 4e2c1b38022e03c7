import QuotaRing.Proofs.Limit.Dictated
import QuotaRing.Proofs.Limit.Recording

/-!
# Hits that are tracked one after another

Hits come with stamps of any order and any size, so cutoffs may have stopped at
the lower end of their range.  Main statement: whatever its stamp, a hit on a
window whose hits are in order takes out those that are not above its cutoff,
joins the others exactly if they leave room, and leaves them in order.
-/

namespace QuotaRing.Limit

namespace Window

/-- The window after hits that are tracked one after another. -/
def after (window : Window) : List Int64 → Window
  | [] => window
  | stamp :: rest => (window.track stamp).1.after rest

/-- The verdicts on hits that are tracked one after another. -/
def verdicts (window : Window) : List Int64 → List Verdict
  | [] => []
  | stamp :: rest =>
      (window.track stamp).2 :: (window.track stamp).1.verdicts rest

/-- What a hit makes of a window: the next window and the verdict. -/
structure Tracked
    (window : Window)
    (stamp : Int64)
    (next : Window)
    (verdict : Verdict) :
    Prop where
  quota_eq : next.quota = window.quota
  sorted : next.hits.Pairwise (· ≤ ·)
  allowed_iff :
    verdict.allowed = true ↔
      (window.kept stamp).length < window.quota.value.toNat
  perm :
    next.hits.Perm
      ((if verdict.allowed then [stamp] else []) ++ window.kept stamp)
  verdict_eq : verdict = next.verdict verdict.allowed stamp

variable {window : Window}

theorem tracked_track
    (sorted : window.hits.Pairwise (· ≤ ·))
    (stamp : Int64) :
    window.Tracked stamp (window.track stamp).1 (window.track stamp).2 := by
  by_cases room : (window.kept stamp).length < window.quota.value.toNat
  · rcases track_of_room stamp sorted room with ⟨hits, perm, ordered, tracked⟩
    rw [tracked]
    exact ⟨rfl, ordered, iff_of_true rfl room, perm, rfl⟩
  · rw [track_of_full stamp sorted room]
    exact ⟨rfl, sorted_kept stamp sorted, iff_of_false nofun room, .refl _, rfl⟩

namespace Tracked

variable
    {next : Window}
    {stamp : Int64}
    {verdict : Verdict}

theorem remaining_eq (tracked : window.Tracked stamp next verdict) :
    verdict.remaining.toNat = next.remaining := by
  rw [tracked.verdict_eq]
  exact toNat_verdict_remaining next _ stamp

theorem nextAvailable_eq (tracked : window.Tracked stamp next verdict) :
    verdict.nextAvailable = next.nextAvailable stamp :=
  congrArg Verdict.nextAvailable tracked.verdict_eq

theorem length_eq (tracked : window.Tracked stamp next verdict) :
    next.hits.length =
      (if verdict.allowed then 1 else 0) + (window.kept stamp).length := by
  rw [tracked.perm.length_eq, List.length_append]
  split
  · rfl
  · rfl

/-- There are more hits than before only if the definition allows as many. -/
theorem length_le (tracked : window.Tracked stamp next verdict) :
    next.hits.length ≤ window.hits.length ∨
      next.hits.length ≤ window.quota.value.toNat := by
  rw [tracked.length_eq]
  split
  · next allowed =>
      right
      rw [Nat.add_comm]
      exact tracked.allowed_iff.1 allowed
  · left
    rw [Nat.zero_add]
    exact List.length_filter_le _ _

/-- A hit is one that was there and is above the cutoff, or the one that came. -/
theorem mem_or_eq
    (tracked : window.Tracked stamp next verdict)
    {hit : Int64}
    (member : hit ∈ next.hits) :
    hit ∈ window.kept stamp ∨ hit = stamp := by
  rcases List.mem_append.1 (tracked.perm.mem_iff.1 member) with new | old
  · split at new
    · exact .inr (List.mem_singleton.1 new)
    · cases new
  · exact .inl old

end Tracked

end Window

end QuotaRing.Limit
