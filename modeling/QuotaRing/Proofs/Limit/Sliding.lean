import QuotaRing.Limit.Window
import QuotaRing.Proofs.Arith.Bisection
import QuotaRing.Proofs.Limit.Margin

/-!
# Windows and stamps

A window keeps its hits in order.  Then its view at a reading keeps the hits
above the cutoff, and a stamp is put behind those that are not later.  For
readings away from the ends of their range, the view keeps exactly the stamps
of the last window length.  A window without room names the instant at which its
oldest hit is too old.
-/

namespace QuotaRing.Limit

/-- The stamps in the window length that ends at an instant, its start excluded. -/
def within (unit : TimeUnit) (stamps : List Int64) (instant : Int) : List Int64 :=
  stamps.filter fun stamp =>
    instant - unit.length < stamp.toInt ∧ stamp.toInt ≤ instant

@[simp]
theorem within_nil (unit : TimeUnit) (instant : Int) :
    within unit [] instant = [] :=
  rfl

theorem within_append
    (unit : TimeUnit)
    (earlier later : List Int64)
    (instant : Int) :
    within unit (earlier ++ later) instant =
      within unit earlier instant ++ within unit later instant := by
  simp [within]

theorem mem_within
    {unit : TimeUnit}
    {stamps : List Int64}
    {instant : Int}
    {stamp : Int64} :
    stamp ∈ within unit stamps instant ↔
      stamp ∈ stamps ∧ instant - unit.length < stamp.toInt ∧
        stamp.toInt ≤ instant := by
  simp [within]

/-- A stamp is in the window length that ends with it. -/
theorem within_self (unit : TimeUnit) (stamp : Int64) :
    within unit [stamp] stamp.toInt = [stamp] := by
  have positive := unit.length_pos
  have inside : stamp.toInt - unit.length < stamp.toInt := by omega
  simp [within, inside]

/-- Stamps that are a window length old or older are in none that ends now. -/
theorem within_eq_nil
    {unit : TimeUnit}
    {stamps : List Int64}
    {instant : Int}
    (old : ∀ stamp ∈ stamps, stamp.toInt + unit.length ≤ instant) :
    within unit stamps instant = [] := by
  apply List.filter_eq_nil_iff.2
  intro stamp member
  have := old stamp member
  simp only [decide_eq_true_eq]
  omega

/-- What a later window length leaves of an earlier one that saw all stamps. -/
theorem within_within
    {unit : TimeUnit}
    {stamps : List Int64}
    {earlier later : Int}
    (seen : ∀ stamp ∈ stamps, stamp.toInt ≤ earlier)
    (ordered : earlier ≤ later) :
    within unit (within unit stamps earlier) later = within unit stamps later := by
  unfold within
  rw [List.filter_filter]
  apply List.filter_congr
  intro stamp member
  have := seen stamp member
  apply Bool.eq_iff_iff.2
  simp only [Bool.and_eq_true, decide_eq_true_eq]
  omega

theorem sorted_within
    {unit : TimeUnit}
    {stamps : List Int64}
    (sorted : stamps.Pairwise (· ≤ ·))
    (instant : Int) :
    (within unit stamps instant).Pairwise (· ≤ ·) :=
  sorted.filter _

/-! ## Lists in order -/

/-- In an ordered list only the stamps above a cutoff outlast its removal. -/
theorem dropWhile_le_eq_filter
    {stamps : List Int64}
    (sorted : stamps.Pairwise (· ≤ ·))
    (cutoff : Int64) :
    stamps.dropWhile (· ≤ cutoff) = stamps.filter (cutoff < ·) := by
  induction stamps with
  | nil => rfl
  | cons first rest ih =>
      rw [List.pairwise_cons] at sorted
      by_cases old : first ≤ cutoff
      · rw [List.dropWhile_cons_of_pos (by simpa using old),
          List.filter_cons_of_neg (by simpa using old), ih sorted.2]
      · have young : cutoff < first := Int64.not_le.1 old
        rw [List.dropWhile_cons_of_neg (by simpa using old)]
        symm
        apply List.filter_eq_self.2
        intro stamp member
        rcases List.mem_cons.1 member with rfl | later
        · simpa using young
        · simpa using Int64.lt_of_lt_of_le young (sorted.1 stamp later)

namespace Window

theorem viewAt_hits
    {window : Window}
    (sorted : window.hits.Pairwise (· ≤ ·))
    (now : Int64) :
    (window.viewAt now).hits = window.hits.filter (window.cutoff now < ·) :=
  dropWhile_le_eq_filter sorted _

/-- The view of a window keeps the stamps of the last window length. -/
theorem viewAt_eq_within
    {window : Window}
    {now : Int64}
    (margin : HasMargin now)
    (sorted : window.hits.Pairwise (· ≤ ·))
    (past : ∀ stamp ∈ window.hits, stamp ≤ now) :
    window.viewAt now =
      { window with hits := within window.quota.unit window.hits now.toInt } := by
  have hits := viewAt_hits sorted now
  have same : window.hits.filter (window.cutoff now < ·) =
      within window.quota.unit window.hits now.toInt := by
    apply List.filter_congr
    intro stamp member
    have le := Int64.le_iff_toInt_le.1 (past stamp member)
    have exact_ := margin.toInt_sub window.quota.unit
    apply Bool.eq_iff_iff.2
    simp only [decide_eq_true_eq, Int64.lt_iff_toInt_lt, cutoff, length, exact_]
    omega
  rw [same] at hits
  rw [← hits]
  rfl

/-- A stamp that no hit is later than is put last. -/
theorem place_eq_length
    {window : Window}
    {stamp : Int64}
    (last : ∀ hit ∈ window.hits, hit ≤ stamp) :
    window.place stamp = window.hits.length := by
  have holds : ∀ index, index < window.hits.length →
      decide ((window.hits[index]?.getD stamp) ≤ stamp) = true := by
    intro index below
    rw [List.getElem?_eq_getElem below, Option.getD_some]
    exact decide_eq_true (last _ (List.getElem_mem below))
  have divides : Divides
      (fun index => decide ((window.hits[index]?.getD stamp) ≤ stamp))
      0 window.hits.length (window.place stamp) := by
    apply divides_bisect
    intro earlier later ordered below _
    exact holds earlier (by omega)
  have atMost := divides.le_end
  by_cases inside : window.place stamp < window.hits.length
  · have fails := divides.after (window.place stamp) (Nat.le_refl _) (by omega)
    rw [holds _ inside] at fails
    cases fails
  · omega

theorem record_eq_append
    {window : Window}
    {stamp : Int64}
    (last : ∀ hit ∈ window.hits, hit ≤ stamp) :
    window.record stamp = { window with hits := window.hits ++ [stamp] } := by
  rw [record, place_eq_length last, List.insertIdx_length_self]

/-! ## Windows without room -/

theorem hits_ne_nil_of_full
    {window : Window}
    (full : window.remaining = 0)
    (positive : 0 < window.quota.value) :
    window.hits ≠ [] := by
  intro empty
  have room : 0 < window.quota.value.toNat := UInt32.lt_iff_toNat_lt.1 positive
  simp only [remaining, empty, List.length_nil] at full
  omega

/-- A window without room names the instant at which its oldest hit is too old. -/
theorem exists_oldest
    {window : Window}
    (full : window.remaining = 0)
    (sorted : window.hits.Pairwise (· ≤ ·))
    (nonempty : window.hits ≠ [])
    (now : Int64) :
    ∃ oldest ∈ window.hits,
      (∀ hit ∈ window.hits, oldest ≤ hit) ∧
        window.nextAvailable now = Saturating.add oldest window.length := by
  rcases window with ⟨quota, hits⟩
  cases hits with
  | nil => exact absurd rfl nonempty
  | cons oldest rest =>
      refine ⟨oldest, List.mem_cons_self, ?_, ?_⟩
      · intro hit member
        rcases List.mem_cons.1 member with rfl | later
        · exact Int64.le_refl _
        · exact (List.pairwise_cons.1 sorted).1 hit later
      · simp only [nextAvailable, full, Nat.lt_irrefl, if_false, List.headD_cons]

end Window

end QuotaRing.Limit
