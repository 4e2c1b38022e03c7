import QuotaRing.Proofs.Limit.Sliding

/-!
# What a log of stamps dictates

The answers to the hits on a counter are dictated by the stamps of its allowed
hits so far.  Main statement: a window that has kept the stamps of the last
window length answers as the whole log dictates, and has kept them again
afterwards.
-/

namespace QuotaRing.Limit

/-- The stamps of the allowed hits after the verdict on a hit at `now`. -/
def Verdict.logged
    (verdict : Verdict)
    (stamps : List Int64)
    (now : Int64) :
    List Int64 :=
  stamps ++ if verdict.allowed then [now] else []

/--
Whether a verdict on a hit at `now` is the one that the stamps of the allowed
hits so far dictate, for a number of hits in every window length.
-/
structure Verdict.Follows
    (verdict : Verdict)
    (unit : TimeUnit)
    (value : UInt32)
    (stamps : List Int64)
    (now : Int64) :
    Prop where
  allowed_iff :
    verdict.allowed = true ↔
      (within unit stamps now.toInt).length < value.toNat
  remaining_eq :
    verdict.remaining.toNat =
      if verdict.allowed then
        value.toNat - (within unit stamps now.toInt).length - 1
      else 0
  next_of_room : 0 < verdict.remaining → verdict.nextAvailable = now
  next_of_full :
    verdict.remaining = 0 → 0 < value →
      ∃ oldest ∈ within unit (verdict.logged stamps now) now.toInt,
        (∀ stamp ∈ within unit (verdict.logged stamps now) now.toInt,
          oldest ≤ stamp) ∧
        verdict.nextAvailable.toInt = oldest.toInt + unit.length
  next_of_none :
    value = 0 → verdict.nextAvailable.toInt = now.toInt + unit.length

namespace Verdict

theorem mem_logged
    {verdict : Verdict}
    {stamps : List Int64}
    {now stamp : Int64}
    (member : stamp ∈ verdict.logged stamps now) :
    stamp ∈ stamps ∨ stamp = now := by
  rcases List.mem_append.1 member with old | new
  · exact .inl old
  · split at new
    · exact .inr (List.mem_singleton.1 new)
    · cases new

theorem past_logged
    {verdict : Verdict}
    {stamps : List Int64}
    {now : Int64}
    (past : ∀ stamp ∈ stamps, stamp ≤ now) :
    ∀ stamp ∈ verdict.logged stamps now, stamp ≤ now := by
  intro stamp member
  rcases mem_logged member with old | rfl
  · exact past stamp old
  · exact Int64.le_refl _

theorem sorted_logged
    {verdict : Verdict}
    {stamps : List Int64}
    {now : Int64}
    (sorted : stamps.Pairwise (· ≤ ·))
    (past : ∀ stamp ∈ stamps, stamp ≤ now) :
    (verdict.logged stamps now).Pairwise (· ≤ ·) := by
  rw [logged]
  split
  · rw [List.pairwise_append]
    refine ⟨sorted, List.pairwise_singleton _ _, ?_⟩
    intro stamp member new same
    rw [List.mem_singleton.1 same]
    exact past stamp member
  · rw [List.append_nil]
    exact sorted

end Verdict

theorem within_logged
    (unit : TimeUnit)
    (verdict : Verdict)
    (stamps : List Int64)
    (now : Int64) :
    within unit (verdict.logged stamps now) now.toInt =
      within unit stamps now.toInt ++ if verdict.allowed then [now] else [] := by
  rw [Verdict.logged, within_append]
  split
  · rw [within_self]
  · rfl

namespace Window

theorem remaining_le (window : Window) :
    window.remaining ≤ window.quota.value.toNat :=
  Nat.sub_le _ _

/-- A verdict tells what remains. -/
theorem toNat_verdict_remaining
    (window : Window)
    (allowed : Bool)
    (now : Int64) :
    (window.verdict allowed now).remaining.toNat = window.remaining := by
  have bound := window.remaining_le
  have range := window.quota.value.toNat_lt
  simp only [verdict, UInt32.toNat_ofNat']
  omega

/-- A window without room and without hits has room after its whole length. -/
theorem nextAvailable_of_empty
    {window : Window}
    {now : Int64}
    (margin : HasMargin now)
    (full : window.remaining = 0)
    (empty : window.hits = []) :
    (window.nextAvailable now).toInt =
      now.toInt + window.quota.unit.length := by
  simp only [nextAvailable, full, Nat.lt_irrefl, if_false, empty, List.headD_nil]
  exact margin.toInt_add window.quota.unit

/-- A window without room has room when its oldest hit is its length old. -/
theorem nextAvailable_of_full
    {window : Window}
    {now : Int64}
    (margin : HasMargin now)
    (full : window.remaining = 0)
    (sorted : window.hits.Pairwise (· ≤ ·))
    (counted : ∀ hit ∈ window.hits,
      now.toInt - window.quota.unit.length < hit.toInt ∧
        hit.toInt ≤ now.toInt)
    (nonempty : window.hits ≠ []) :
    ∃ oldest ∈ window.hits,
      (∀ hit ∈ window.hits, oldest ≤ hit) ∧
        (window.nextAvailable now).toInt =
          oldest.toInt + window.quota.unit.length := by
  rcases exists_oldest full sorted nonempty now with
    ⟨oldest, member, first, next⟩
  refine ⟨oldest, member, first, ?_⟩
  have young := counted oldest member
  have short := window.quota.unit.length_le_day
  have above := margin.above
  have below := margin.below
  rw [next, Saturating.toInt_add]
  simp only [length, TimeUnit.length] at *
  omega

/-- Tracking works on the stamps of the last window length. -/
theorem track_eq
    {window : Window}
    {now : Int64}
    (margin : HasMargin now)
    (sorted : window.hits.Pairwise (· ≤ ·))
    (past : ∀ hit ∈ window.hits, hit ≤ now)
    {counted : List Int64}
    (sees : within window.quota.unit window.hits now.toInt = counted) :
    window.track now =
      if counted.length < window.quota.value.toNat then
        ({ window with hits := counted ++ [now] },
          verdict { window with hits := counted ++ [now] } true now)
      else
        ({ window with hits := counted },
          verdict { window with hits := counted } false now) := by
  have view := viewAt_eq_within margin sorted past
  rw [sees] at view
  have last : ∀ hit ∈ counted, hit ≤ now := by
    intro hit member
    rw [← sees] at member
    exact past hit (mem_within.1 member).1
  have recorded : record { window with hits := counted } now =
      { window with hits := counted ++ [now] } :=
    record_eq_append last
  rw [track]
  simp only [view, recorded, remaining, Nat.sub_pos_iff_lt]

variable
    {quota : Quota}
    {stamps : List Int64}
    {now : Int64}

/-- The verdict on a hit for which there was room. -/
theorem follows_of_room
    (margin : HasMargin now)
    (sorted : stamps.Pairwise (· ≤ ·))
    (past : ∀ stamp ∈ stamps, stamp ≤ now)
    (room : (within quota.unit stamps now.toInt).length < quota.value.toNat) :
    (verdict
      { quota := quota, hits := within quota.unit stamps now.toInt ++ [now] }
      true now).Follows quota.unit quota.value stamps now := by
  have same : within quota.unit
        ((verdict
          { quota := quota
            hits := within quota.unit stamps now.toInt ++ [now] }
          true now).logged stamps now) now.toInt =
      within quota.unit stamps now.toInt ++ [now] :=
    within_logged _ _ _ _
  refine ⟨?_, ?_, ?_, ?_, ?_⟩
  · simp [verdict, room]
  · rw [toNat_verdict_remaining]
    simp [verdict, remaining, Nat.sub_sub]
  · intro left
    rw [UInt32.lt_iff_toNat_lt, toNat_verdict_remaining] at left
    exact if_pos left
  · intro full _
    rw [same]
    apply @nextAvailable_of_full
      { quota := quota, hits := within quota.unit stamps now.toInt ++ [now] }
      now margin
    · rw [← toNat_verdict_remaining _ true now, full]
      rfl
    · rw [← same]
      exact sorted_within (Verdict.sorted_logged sorted past) _
    · intro hit member
      rw [← same] at member
      exact (mem_within.1 member).2
    · simp
  · intro zero
    rw [zero] at room
    cases room

/-- The verdict on a hit for which there was no room. -/
theorem follows_of_full
    (margin : HasMargin now)
    (sorted : stamps.Pairwise (· ≤ ·))
    (bounded : (within quota.unit stamps now.toInt).length ≤ quota.value.toNat)
    (full : ¬ (within quota.unit stamps now.toInt).length < quota.value.toNat) :
    (verdict
      { quota := quota, hits := within quota.unit stamps now.toInt }
      false now).Follows quota.unit quota.value stamps now := by
  have none : remaining
      { quota := quota, hits := within quota.unit stamps now.toInt } = 0 :=
    Nat.sub_eq_zero_of_le (Nat.not_lt.1 full)
  have same : within quota.unit
        ((verdict
          { quota := quota, hits := within quota.unit stamps now.toInt }
          false now).logged stamps now) now.toInt =
      within quota.unit stamps now.toInt := by
    rw [within_logged]
    exact List.append_nil _
  refine ⟨?_, ?_, ?_, ?_, ?_⟩
  · simp [verdict, full]
  · rw [toNat_verdict_remaining, none]
    rfl
  · intro left
    rw [UInt32.lt_iff_toNat_lt, toNat_verdict_remaining, none] at left
    cases left
  · intro _ positive
    rw [same]
    apply @nextAvailable_of_full
      { quota := quota, hits := within quota.unit stamps now.toInt } now margin
      none
    · exact sorted_within sorted now.toInt
    · intro hit member
      exact (mem_within.1 member).2
    · intro empty
      simp only at empty
      rw [empty] at full
      exact full (UInt32.lt_iff_toNat_lt.1 positive)
  · intro zero
    apply nextAvailable_of_empty margin none
    rw [zero] at bounded
    exact List.eq_nil_of_length_eq_zero (Nat.le_zero.1 bounded)

/--
A window that has kept the stamps of the last window length answers a hit as
the whole log dictates, and keeps the stamps of the last window length.
-/
theorem track_follows
    {hits : List Int64}
    (margin : HasMargin now)
    (sortedHits : hits.Pairwise (· ≤ ·))
    (pastHits : ∀ hit ∈ hits, hit ≤ now)
    (sorted : stamps.Pairwise (· ≤ ·))
    (past : ∀ stamp ∈ stamps, stamp ≤ now)
    (sees : within quota.unit hits now.toInt =
      within quota.unit stamps now.toInt)
    (bounded :
      (within quota.unit stamps now.toInt).length ≤ quota.value.toNat) :
    ∃ verdict : Verdict,
      verdict.Follows quota.unit quota.value stamps now ∧
        track { quota := quota, hits := hits } now =
          ({ quota := quota
             hits := within quota.unit (verdict.logged stamps now) now.toInt },
            verdict) := by
  rw [@track_eq { quota := quota, hits := hits } now margin sortedHits pastHits
    _ sees]
  split
  · next room =>
      refine ⟨_, follows_of_room margin sorted past room, ?_⟩
      rw [within_logged]
      rfl
  · next full =>
      refine ⟨_, follows_of_full margin sorted bounded full, ?_⟩
      rw [within_logged]
      simp [verdict]

end Window

end QuotaRing.Limit
