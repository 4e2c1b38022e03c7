import QuotaRing.Proofs.Limit.Tracking

/-!
# Waiting for the next free place

A verdict names the instant from which a hit would be allowed, and callers are
told to wait for it in whole seconds.  Stamps come in any order, so hits may be
recorded that are later than the reading of the clock.  Main statement: a hit is
allowed exactly from the instant on that was named, if none comes before, and
the seconds to wait reach it, one second less does not.
-/

namespace QuotaRing.Limit

open Saturating (highest)

/-- Whether a stamp is not negative and its window ends within the range. -/
structure IsTimely (unit : TimeUnit) (stamp : Int64) : Prop where
  above : 0 ≤ stamp.toInt
  below : stamp.toInt + unit.length ≤ highest

instance (unit : TimeUnit) (stamp : Int64) : Decidable (IsTimely unit stamp) :=
  decidable_of_iff
    (0 ≤ stamp.toInt ∧ stamp.toInt + unit.length ≤ highest)
    ⟨fun bounds => ⟨bounds.1, bounds.2⟩,
      fun timely => ⟨timely.above, timely.below⟩⟩

theorem IsTimely.toInt_add
    {unit : TimeUnit}
    {stamp : Int64}
    (timely : IsTimely unit stamp) :
    (Saturating.add stamp unit.millis).toInt = stamp.toInt + unit.length := by
  have positive := unit.length_pos
  have above := timely.above
  have below := timely.below
  apply Saturating.toInt_saturate_of_mem
  · simp only [Saturating.lowest, TimeUnit.length] at *
    omega
  · exact below

/-- The difference of two readings that are not negative is within the range. -/
theorem toInt_sub_of_nonneg
    {left right : Int64}
    (leftNonneg : 0 ≤ left.toInt)
    (rightNonneg : 0 ≤ right.toInt) :
    (Saturating.sub left right).toInt = left.toInt - right.toInt := by
  have leftMost := left.toInt_lt
  have rightMost := right.toInt_lt
  apply Saturating.toInt_saturate_of_mem
  · simp only [Saturating.lowest]
    omega
  · simp only [highest]
    omega

namespace Window

/--
Whether a window has gathered its hits from among some stamps, in order and no
more than its quota allows.
-/
structure Gathers
    (window : Window)
    (quota : Quota)
    (stamps : List Int64) :
    Prop where
  quota_eq : window.quota = quota
  sorted : window.hits.Pairwise (· ≤ ·)
  few : window.hits.length ≤ quota.value.toNat
  among : ∀ hit ∈ window.hits, hit ∈ stamps

namespace Gathers

variable
    {window : Window}
    {quota : Quota}
    {stamps : List Int64}
    {now later : Int64}

theorem track (gathers : window.Gathers quota stamps) (stamp : Int64) :
    (window.track stamp).1.Gathers quota (stamps ++ [stamp]) := by
  have tracked := tracked_track gathers.sorted stamp
  refine ⟨tracked.quota_eq.trans gathers.quota_eq, tracked.sorted, ?_, ?_⟩
  · rcases tracked.length_le with fewer | allowed
    · exact Nat.le_trans fewer gathers.few
    · rw [gathers.quota_eq] at allowed
      exact allowed
  · intro hit member
    rcases tracked.mem_or_eq member with old | rfl
    · exact List.mem_append_left _ (gathers.among hit (List.mem_filter.1 old).1)
    · simp

theorem after (gathers : window.Gathers quota stamps) (others : List Int64) :
    (window.after others).Gathers quota (stamps ++ others) := by
  induction others generalizing window stamps with
  | nil =>
      rw [List.append_nil]
      exact gathers
  | cons stamp rest ih =>
      rw [List.append_cons]
      exact ih (gathers.track stamp)

theorem toInt_cutoff
    (gathers : window.Gathers quota stamps)
    (nonneg : 0 ≤ now.toInt) :
    (window.cutoff now).toInt = now.toInt - quota.unit.length := by
  rw [← gathers.quota_eq]
  exact toInt_sub_of_nonneg nonneg
    (Int.le_of_lt window.quota.unit.length_pos)

/-- A full window names the instant at which its oldest hit is too old. -/
theorem nextAvailable_of_full
    (gathers : window.Gathers quota stamps)
    (timely : ∀ stamp ∈ stamps, IsTimely quota.unit stamp)
    (positive : 0 < quota.value)
    (full : window.remaining = 0)
    (now : Int64) :
    ∃ oldest ∈ window.hits,
      (∀ hit ∈ window.hits, oldest ≤ hit) ∧
        (window.nextAvailable now).toInt = oldest.toInt + quota.unit.length := by
  rcases gathers with ⟨rfl, sorted, _, among⟩
  rcases exists_oldest full sorted (hits_ne_nil_of_full full positive) now with
    ⟨oldest, member, first, next⟩
  refine ⟨oldest, member, first, ?_⟩
  rw [next]
  exact (timely oldest (among oldest member)).toInt_add

/-- A window leaves room at a later reading exactly from the instant it names. -/
theorem room_iff
    (gathers : window.Gathers quota stamps)
    (timely : ∀ stamp ∈ stamps, IsTimely quota.unit stamp)
    (positive : 0 < quota.value)
    (nonneg : 0 ≤ now.toInt)
    (ordered : now ≤ later) :
    (window.kept later).length < quota.value.toNat ↔
      window.nextAvailable now ≤ later := by
  have forward := Int64.le_iff_toInt_le.1 ordered
  by_cases room : 0 < window.remaining
  · rw [nextAvailable, if_pos room]
    refine iff_of_true (Nat.lt_of_le_of_lt (List.length_filter_le _ _) ?_) ordered
    rw [remaining, gathers.quota_eq] at room
    exact Nat.lt_of_sub_pos room
  · have full : window.remaining = 0 := Nat.eq_zero_of_not_pos room
    rcases gathers.nextAvailable_of_full timely positive full now with
      ⟨oldest, member, first, next⟩
    have all : quota.value.toNat = window.hits.length := by
      have few := gathers.few
      rw [remaining, gathers.quota_eq] at full
      omega
    have cutoff := gathers.toInt_cutoff (Int.le_trans nonneg forward)
    -- Of as many hits as are allowed one has to be too old, the oldest if any.
    rw [all, kept, List.length_filter_lt_length_iff_exists,
      Int64.le_iff_toInt_le, next]
    constructor
    · rintro ⟨hit, held, old⟩
      have notEarlier := Int64.le_iff_toInt_le.1 (first hit held)
      rw [decide_eq_true_iff, Int64.lt_iff_toInt_lt, cutoff] at old
      omega
    · intro reached
      refine ⟨oldest, member, ?_⟩
      rw [decide_eq_true_iff, Int64.lt_iff_toInt_lt, cutoff]
      omega

/-- What a window names is not negative. -/
theorem nextAvailable_nonneg
    (gathers : window.Gathers quota stamps)
    (timely : ∀ stamp ∈ stamps, IsTimely quota.unit stamp)
    (positive : 0 < quota.value)
    (nonneg : 0 ≤ now.toInt) :
    0 ≤ (window.nextAvailable now).toInt := by
  by_cases room : 0 < window.remaining
  · rw [nextAvailable, if_pos room]
    exact nonneg
  · rcases gathers.nextAvailable_of_full timely positive
        (Nat.eq_zero_of_not_pos room) now with ⟨oldest, member, _, next⟩
    have above := (timely oldest (gathers.among oldest member)).above
    have long := quota.unit.length_pos
    omega

end Gathers

end Window

/-! ## Whole seconds -/

/--
Whether a number of seconds, which is one at least, is enough to wait at a reading
of the clock for an instant, and one less would not be.
-/
structure IsWait (instant reading : Int64) (seconds : Nat) : Prop where
  positive : 1 ≤ seconds
  enough : instant.toInt ≤ reading.toInt + 1000 * seconds
  least : 1 < seconds → reading.toInt + 1000 * (seconds - 1) < instant.toInt

theorem isWait_retryAfter
    {instant reading : Int64}
    (instantNonneg : 0 ≤ instant.toInt)
    (readingNonneg : 0 ≤ reading.toInt) :
    IsWait instant reading (retryAfter instant reading).toNat := by
  have most := instant.toInt_lt
  have seconds : (retryAfter instant reading).toNat =
      max 1 (((instant.toInt - reading.toInt).toNat + 999) / 1000) := by
    rw [retryAfter, toInt_sub_of_nonneg instantNonneg readingNonneg,
      UInt64.toNat_ofNat']
    omega
  constructor <;> omega

/-! ## Verdicts -/

/--
Whether a verdict on a hit at `now` names the instant from which the window that
the hit has left allows another one, and the time to wait for it.
-/
structure Verdict.Announces
    (verdict : Verdict)
    (window : Window)
    (now : Int64) :
    Prop where
  allowed_iff : ∀ later, now ≤ later →
    ((window.track later).2.allowed = true ↔ verdict.nextAvailable ≤ later)
  later_of_full : verdict.remaining = 0 → now < verdict.nextAvailable
  waits : ∀ reading : Int64, 0 ≤ reading →
    IsWait verdict.nextAvailable reading (verdict.retryAfter reading).toNat

/--
Hits with stamps in any order are tracked against one quota that allows any.  The
verdict on the last of them names exactly the instant from which another one is
allowed, which is yet to come if no place is left, and callers who wait the whole
seconds they are told reach it, but not with one second less.
-/
theorem next_available_is_exact
    (quota : Quota)
    (earlier : List Int64)
    (now : Int64)
    (positive : 0 < quota.value)
    (timely : ∀ stamp ∈ earlier ++ [now], IsTimely quota.unit stamp) :
    let answered := ((Window.fresh quota).after earlier).track now
    answered.2.Announces answered.1 now := by
  intro answered
  have start : (Window.fresh quota).Gathers quota [] :=
    ⟨rfl, .nil, Nat.zero_le _, fun _ member => member⟩
  have before : ((Window.fresh quota).after earlier).Gathers quota earlier :=
    start.after earlier
  have tracked := Window.tracked_track before.sorted now
  have gathers : answered.1.Gathers quota (earlier ++ [now]) := before.track now
  have nonneg : 0 ≤ now.toInt := (timely now (by simp)).above
  refine ⟨?_, ?_, ?_⟩
  · intro later ordered
    rw [(Window.tracked_track gathers.sorted later).allowed_iff,
      gathers.quota_eq, tracked.nextAvailable_eq]
    exact gathers.room_iff timely positive nonneg ordered
  · intro none
    have full : answered.1.remaining = 0 :=
      tracked.remaining_eq.symm.trans (congrArg UInt32.toNat none)
    rcases gathers.nextAvailable_of_full timely positive full now with
      ⟨oldest, member, _, next⟩
    have long := quota.unit.length_pos
    rw [tracked.nextAvailable_eq, Int64.lt_iff_toInt_lt, next]
    rcases tracked.mem_or_eq member with old | rfl
    · have young := of_decide_eq_true (List.mem_filter.1 old).2
      rw [Int64.lt_iff_toInt_lt, before.toInt_cutoff nonneg] at young
      omega
    · omega
  · intro reading reached
    apply isWait_retryAfter
    · rw [tracked.nextAvailable_eq]
      exact gathers.nextAvailable_nonneg timely positive nonneg
    · exact Int64.le_iff_toInt_le.1 reached

/--
Of the hits that fill a window the first to be recorded is later than the refused
one, and the second is the oldest.
-/
theorem next_available_is_exact_unordered :
    let quota : Quota := { id := "orders", unit := .hour, value := 2 }
    let earlier : List Int64 := [1700000003000, 1700000001000]
    let now : Int64 := 1700000002000
    let answered := ((Window.fresh quota).after earlier).track now
    0 < quota.value ∧
      (∀ stamp ∈ earlier ++ [now], IsTimely quota.unit stamp) ∧
      answered.2 =
        { allowed := false, nextAvailable := 1700003601000, remaining := 0 } ∧
      (answered.1.track 1700003600999).2.allowed = false ∧
      (answered.1.track 1700003601000).2.allowed = true ∧
      IsWait 1700003601000 1700000002500
        (answered.2.retryAfter 1700000002500).toNat := by
  intro quota earlier now answered
  have positive : 0 < quota.value := by decide
  have timely : ∀ stamp ∈ earlier ++ [now], IsTimely quota.unit stamp := by
    intro stamp member
    simp only [earlier, now, List.cons_append, List.nil_append, List.mem_cons,
      List.not_mem_nil, or_false] at member
    rcases member with rfl | rfl | rfl
    all_goals decide
  have told : answered.2 =
      { allowed := false, nextAvailable := 1700003601000, remaining := 0 } := by
    decide +kernel
  have announces : answered.2.Announces answered.1 now :=
    next_available_is_exact quota earlier now positive timely
  have waits := announces.waits 1700000002500 (by decide)
  refine ⟨positive, timely, told, ?_, ?_, ?_⟩
  · have early : ¬ answered.2.nextAvailable ≤ 1700003600999 := by
      rw [told]
      decide
    rw [← announces.allowed_iff _ (by decide)] at early
    exact Bool.eq_false_iff.2 early
  · rw [announces.allowed_iff _ (by decide), told]
    decide
  · rw [told] at waits
    rw [told]
    exact waits

end QuotaRing.Limit
