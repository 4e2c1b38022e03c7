import QuotaRing.Limit.Counter
import QuotaRing.Proofs.Limit.Dictated
import QuotaRing.Proofs.Store.Forms
import QuotaRing.Proofs.Store.Lookup

/-!
# Entries that account for a log

A counter's entry is written at every hit, holds the stamps of one window
length, and lives for one window length.  It accounts for the whole log of the
counter's allowed hits: the stamps it has forgotten, and those of an entry that
is gone, are too old to count.  Main statements: what a hit sees through the
entry is what the log dictates, and hits, writes under other keys, sweeps and
the passing of time keep the account.
-/

namespace QuotaRing.Limit

open QuotaRing.Store (Entry IsShort Key Patch Table readable?)
open QuotaRing.Wire (encode)

/-- What is stored under a key for a log of stamps. -/
inductive Holding
    (quota : Quota)
    (stamps : List Int64)
    (now : Int64) :
    Option Entry → Prop where
  /-- The stamps of the window length that ended with the last write. -/
  | kept
      (entry : Entry)
      (last : Int64)
      (written : last ≤ now)
      (seen : ∀ stamp ∈ stamps, stamp ≤ last)
      (value : entry.value = encode
        ({ quota := quota
           hits := within quota.unit stamps last.toInt } : Window))
      (expires : entry.expiresAt.toInt = last.toInt + quota.unit.length) :
      Holding quota stamps now (some entry)
  /-- Nothing that can be read, when all stamps are old. -/
  | lost
      (stored? : Option Entry)
      (unreadable : ∀ entry, stored? = some entry →
        (readable? (some entry.value) : Option Window) = none)
      (old : ∀ stamp ∈ stamps, stamp.toInt + quota.unit.length ≤ now.toInt) :
      Holding quota stamps now stored?

/--
Whether a table accounts at `now` for the stamps of the allowed hits on the
counter under a key.
-/
structure Accounts
    (key : Key)
    (quota : Quota)
    (stamps : List Int64)
    (now : Int64)
    (table : Table) :
    Prop where
  sorted : stamps.Pairwise (· ≤ ·)
  past : ∀ stamp ∈ stamps, stamp ≤ now
  bounded : ∀ instant,
    (within quota.unit stamps instant).length ≤ quota.value.toNat
  holding : Holding quota stamps now (table.find? key)

variable
    {key : Key}
    {quota : Quota}
    {stamps : List Int64}
    {now later : Int64}
    {table : Table}

theorem Holding.mono
    {stored? : Option Entry}
    (holding : Holding quota stamps now stored?)
    (ordered : now ≤ later) :
    Holding quota stamps later stored? := by
  cases holding with
  | kept entry last written seen value expires =>
      exact .kept entry last (Int64.le_trans written ordered) seen value expires
  | lost stored? unreadable old =>
      refine .lost stored? unreadable fun stamp member => ?_
      have := old stamp member
      have := Int64.le_iff_toInt_le.1 ordered
      omega

/-- An entry that no longer lives holds old stamps alone. -/
theorem Holding.filter_isLive
    {stored? : Option Entry}
    (holding : Holding quota stamps now stored?) :
    Holding quota stamps now (stored?.filter (·.isLive now)) := by
  cases holding with
  | kept entry last written seen value expires =>
      by_cases live : entry.isLive now = true
      · rw [Option.filter_some, if_pos live]
        exact .kept entry last written seen value expires
      · rw [Option.filter_some, if_neg live]
        refine .lost none (fun entry found => by cases found) ?_
        intro stamp member
        have := Int64.le_iff_toInt_le.1 (seen stamp member)
        have ended : ¬ now < entry.expiresAt := by
          simpa [Entry.isLive] using live
        have := Int64.le_iff_toInt_le.1 (Int64.not_lt.1 ended)
        omega
  | lost stored? unreadable old =>
      refine .lost _ (fun entry found => ?_) old
      exact unreadable entry (Option.filter_eq_some_iff.1 found).1

namespace Accounts

theorem mono
    (accounts : Accounts key quota stamps now table)
    (ordered : now ≤ later) :
    Accounts key quota stamps later table where
  sorted := accounts.sorted
  past stamp member := Int64.le_trans (accounts.past stamp member) ordered
  bounded := accounts.bounded
  holding := accounts.holding.mono ordered

/-- An account depends on the entry under its key alone. -/
theorem congr
    {other : Table}
    (accounts : Accounts key quota stamps now table)
    (same : other.find? key = table.find? key) :
    Accounts key quota stamps now other where
  sorted := accounts.sorted
  past := accounts.past
  bounded := accounts.bounded
  holding := same ▸ accounts.holding

theorem sweep (accounts : Accounts key quota stamps now table) :
    Accounts key quota stamps now (table.sweep now).2 where
  sorted := accounts.sorted
  past := accounts.past
  bounded := accounts.bounded
  holding := by
    rw [Table.find?_sweep]
    exact accounts.holding.filter_isLive

/-- Before any hit, whatever is stored is to be unreadable. -/
theorem start
    (unreadable : ∀ entry, table.find? key = some entry →
      (readable? (some entry.value) : Option Window) = none) :
    Accounts key quota [] now table where
  sorted := .nil
  past stamp member := by cases member
  bounded instant := Nat.zero_le _
  holding := .lost _ unreadable fun stamp member => by cases member

/-- The hits that a hit sees through the entry are those that the log dictates. -/
theorem sees
    (accounts : Accounts key quota stamps now table)
    (short : IsShort quota) :
    ∃ hits : List Int64,
      (readable? (table.get? now key)).getD (Window.fresh quota) =
          { quota := quota, hits := hits } ∧
        hits.Pairwise (· ≤ ·) ∧
        (∀ hit ∈ hits, hit ≤ now) ∧
        within quota.unit hits now.toInt =
          within quota.unit stamps now.toInt := by
  have nothing : (readable? none).getD (Window.fresh quota) =
      { quota := quota, hits := [] } := rfl
  have noHits : ([] : List Int64).Pairwise (· ≤ ·) ∧
      ∀ hit ∈ ([] : List Int64), hit ≤ now := ⟨.nil, by simp⟩
  have holding := accounts.holding.filter_isLive
  rw [Table.get?]
  generalize (table.find? key).filter (·.isLive now) = stored? at holding
  cases holding with
  | kept entry last written seen value expires =>
      have few := accounts.bounded last.toInt
      have range := quota.value.toNat_lt
      have capacious : 2 ^ 32 ≤ Wire.capacity Wire.Width.eight.bytes := by decide
      have reads : Wire.Reads
          ({ quota := quota
             hits := within quota.unit stamps last.toInt } : Window) :=
        Store.reads_window short (by simp only; omega)
      refine ⟨within quota.unit stamps last.toInt, ?_,
        sorted_within accounts.sorted _, ?_, ?_⟩
      · rw [Option.map_some, value, Store.readable?_encode reads]
        rfl
      · intro hit member
        exact accounts.past hit (mem_within.1 member).1
      · exact within_within
          (fun stamp member => Int64.le_iff_toInt_le.1 (seen stamp member))
          (Int64.le_iff_toInt_le.1 written)
  | lost stored? unreadable old =>
      refine ⟨[], ?_, noHits.1, noHits.2, ?_⟩
      · cases stored? with
        | none => exact nothing
        | some entry =>
            rw [Option.map_some, unreadable entry rfl]
            rfl
      · rw [within_nil, within_eq_nil old]

/-- A log stays within its bounds when a hit is allowed for which there was room. -/
theorem bounded_logged
    {verdict : Verdict}
    (accounts : Accounts key quota stamps now table)
    (follows : verdict.Follows quota.unit quota.value stamps now)
    (instant : Int) :
    (within quota.unit (verdict.logged stamps now) instant).length ≤
      quota.value.toNat := by
  by_cases allowed : verdict.allowed = true
  · rw [Verdict.logged, if_pos allowed, within_append, List.length_append]
    by_cases inside : instant - quota.unit.length < now.toInt ∧
        now.toInt ≤ instant
    · -- all stamps are past, so those of this length are of the one that ends now
      have fewer : (within quota.unit stamps instant).length ≤
          (within quota.unit stamps now.toInt).length := by
        unfold within
        rw [← List.countP_eq_length_filter, ← List.countP_eq_length_filter]
        apply List.countP_mono_left
        intro stamp member counted
        have := Int64.le_iff_toInt_le.1 (accounts.past stamp member)
        simp only [decide_eq_true_eq] at counted ⊢
        omega
      have room := follows.allowed_iff.1 allowed
      have one : (within quota.unit [now] instant).length ≤ 1 :=
        List.length_filter_le _ _
      omega
    · have none : within quota.unit [now] instant = [] := by
        simp only [within, List.filter_cons, inside, decide_false,
          Bool.false_eq_true, if_false, List.filter_nil]
      rw [none]
      exact accounts.bounded instant
  · rw [Verdict.logged, if_neg allowed, List.append_nil]
    exact accounts.bounded instant

/--
A hit is answered as the log dictates, and the entry it writes accounts for the
log with the hit.
-/
theorem hit
    (accounts : Accounts key quota stamps now table)
    (short : IsShort quota)
    (margin : HasMargin now)
    (method : Method) :
    ∃ (verdict : Verdict) (window : Window),
      verdict.Follows quota.unit quota.value stamps now ∧
        Window.countHit { quota := quota, method := method, stamp := now }
            (readable? (table.get? now key)) = (window, verdict) ∧
        Accounts key quota (verdict.logged stamps now) now
          (table.put now key (encode window) quota.unit.span) := by
  rcases accounts.sees short with ⟨hits, found, sortedHits, pastHits, same⟩
  rcases Window.track_follows margin sortedHits pastHits accounts.sorted
      accounts.past same (accounts.bounded now.toInt) with
    ⟨verdict, follows, tracked⟩
  refine ⟨verdict, _, follows, Eq.trans ?_ tracked,
    ⟨Verdict.sorted_logged accounts.sorted accounts.past,
      Verdict.past_logged accounts.past, accounts.bounded_logged follows, ?_⟩⟩
  · simp only [Window.countHit, found]
  · rw [Table.find?_put_self]
    exact .kept _ now (Int64.le_refl _) (Verdict.past_logged accounts.past) rfl
      (margin.toInt_add quota.unit)

end Accounts

end QuotaRing.Limit
