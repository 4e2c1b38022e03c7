import QuotaRing.Proofs.Limit.Limiter

/-!
# Tables of counters

Whatever configurations come into force, every entry in the table of a limiter
is the form of a window whose hits are in order, not later than the clock and
fewer than a counter can count.  Such a window reads back, and its view keeps
exactly the hits above the cutoff.
-/

namespace QuotaRing.Limit

open QuotaRing.Run (Spans after)
open QuotaRing.Store (Entry IsShort Key Table readable?)
open QuotaRing.Wire (encode)

/-- The number of hits that no quota allows. -/
def tooMany : Nat :=
  UInt32.size

/-- A window that can be stored and whose hits are in order and past. -/
structure Window.Tidy (window : Window) (now : Int64) : Prop where
  short : IsShort window.quota
  sorted : window.hits.Pairwise (· ≤ ·)
  past : ∀ hit ∈ window.hits, hit ≤ now
  few : window.hits.length < tooMany

/-- Whether every entry of a table is the form of a tidy window. -/
def Counts (table : Table) (now : Int64) : Prop :=
  ∀ key entry, table.find? key = some entry →
    ∃ window : Window, entry.value = encode window ∧ window.Tidy now

namespace Window.Tidy

variable
    {window : Window}
    {now later : Int64}

theorem mono (tidy : window.Tidy now) (ordered : now ≤ later) :
    window.Tidy later where
  short := tidy.short
  sorted := tidy.sorted
  past hit member := Int64.le_trans (tidy.past hit member) ordered
  few := tidy.few

theorem readable (tidy : window.Tidy now) :
    readable? (some (encode window)) = some window := by
  have capacious : tooMany ≤ Wire.capacity Wire.Width.eight.bytes := by decide
  exact Store.readable?_encode
    (Store.reads_window tidy.short (Nat.lt_of_lt_of_le tidy.few capacious))

theorem fresh {quota : Quota} (short : IsShort quota) :
    (Window.fresh quota).Tidy now where
  short := short
  sorted := .nil
  past hit member := by cases member
  few := Nat.two_pow_pos 32

/-- The hits of a tidy window may be counted against another quota. -/
theorem adopt
    (tidy : window.Tidy now)
    {quota : Quota}
    (short : IsShort quota) :
    { window with quota := quota }.Tidy now where
  short := short
  sorted := tidy.sorted
  past := tidy.past
  few := tidy.few

theorem viewAt (tidy : window.Tidy now) : (window.viewAt now).Tidy now where
  short := tidy.short
  sorted := tidy.sorted.sublist (List.dropWhile_sublist _)
  past hit member :=
    tidy.past hit ((List.dropWhile_sublist _).subset member)
  few := Nat.lt_of_le_of_lt (List.dropWhile_sublist _).length_le tidy.few

/-- Tracking leaves a tidy window. -/
theorem track (tidy : window.Tidy now) : (window.track now).1.Tidy now := by
  have view := tidy.viewAt
  rw [Window.track]
  dsimp only
  split
  · next room =>
      rw [record_eq_append view.past]
      refine ⟨tidy.short, ?_, ?_, ?_⟩
      · rw [List.pairwise_append]
        refine ⟨view.sorted, List.pairwise_singleton _ _, ?_⟩
        intro hit member last same
        rw [List.mem_singleton.1 same]
        exact view.past hit member
      · intro hit member
        rcases List.mem_append.1 member with old | new
        · exact view.past hit old
        · rw [List.mem_singleton.1 new]
          exact Int64.le_refl _
      · have range := (window.viewAt now).quota.value.toNat_lt
        simp only [remaining, tooMany, UInt32.size, List.length_append,
          List.length_singleton] at room ⊢
        omega
  · exact view

end Window.Tidy

namespace Counts

variable
    {table : Table}
    {now later : Int64}

theorem empty : Counts .empty now := by
  intro key entry found
  cases found

theorem mono (counts : Counts table now) (ordered : now ≤ later) :
    Counts table later := by
  intro key entry found
  rcases counts key entry found with ⟨window, value, tidy⟩
  exact ⟨window, value, tidy.mono ordered⟩

/-- A live entry reads back as a tidy window. -/
theorem live
    (counts : Counts table now)
    {key : Key}
    {window : Window}
    (found : readable? (table.get? now key) = some window) :
    window.Tidy now := by
  rw [Table.get?] at found
  cases live : (table.find? key).filter (·.isLive now) with
  | none =>
      rw [live] at found
      cases found
  | some entry =>
      rcases counts key entry (Option.filter_eq_some_iff.1 live).1 with
        ⟨stored, value, tidy⟩
      rw [live, Option.map_some, value, tidy.readable] at found
      cases found
      exact tidy

theorem put
    (counts : Counts table now)
    {key : Key}
    {window : Window}
    (tidy : window.Tidy now)
    (lifetime : Span) :
    Counts (table.put now key (encode window) lifetime) now := by
  intro other entry found
  by_cases same : other = key
  · subst same
    rw [Table.find?_put_self] at found
    cases found
    exact ⟨window, rfl, tidy⟩
  · rw [Table.find?_put_of_ne _ _ _ _ same] at found
    exact counts other entry found

theorem sweep (counts : Counts table now) : Counts (table.sweep now).2 now := by
  intro key entry found
  rw [Table.find?_sweep] at found
  exact counts key entry (Option.filter_eq_some_iff.1 found).1

theorem hit
    (counts : Counts table now)
    (method : Method)
    (subject group : String)
    (definition : Definition) :
    Counts
      (Limit.hit (Datastore.ofTable now) now method subject group definition
        table).2 now := by
  cases named : counterKey subject group definition.id with
  | error error =>
      rw [hit_ofTable_of_error table named]
      exact counts
  | ok key =>
      rw [hit_ofTable table named]
      apply counts.put
      have short := isShort_of_named named
      apply Window.Tidy.track
      cases found : (readable? (table.get? now key) : Option Window) with
      | none => exact .fresh short
      | some window => exact (counts.live found).adopt short

theorem chargeAll
    (counts : Counts table now)
    (method : Method)
    (charges : List Charge) :
    Counts
      (Limit.chargeAll (Datastore.ofTable now) now method charges table).2
      now := by
  induction charges generalizing table with
  | nil => exact counts
  | cons charge rest ih =>
      have next := counts.hit method charge.subject charge.group
        charge.definition
      rw [chargeAll_cons]
      cases told : Limit.hit (Datastore.ofTable now) now method charge.subject
          charge.group charge.definition table with
      | mk result state =>
          rw [told] at next
          cases result with
          | error error => exact next
          | ok verdict =>
              dsimp only
              split
              · exact ih next
              · exact next

end Counts

namespace Limiter

variable {dialect : Dialect}

theorem counts_step
    {moment : Moment Event}
    {limiter : Limiter}
    (counts : Counts limiter.table moment.now) :
    Counts (step dialect moment.now moment.event limiter).2.table
      moment.now := by
  rcases moment with ⟨now, event⟩
  cases event with
  | track subject callers uri method =>
      simp only [step, track_eq]
      cases checkSubject subject with
      | error error => exact counts
      | ok _ =>
          cases Method.read method with
          | error message => exact counts
          | ok read => exact counts.chargeAll read _
  | query subject callers =>
      rw [step, Prod.map_snd, query_ofTable]
      exact counts
  | sweep => exact counts.sweep
  | update offered =>
      simp only [step]
      cases limiter.rules.update dialect offered with
      | error fault => exact counts
      | ok rules => exact counts

/-- The table of a limiter holds tidy windows in every run. -/
theorem counts_after
    {limiter : Limiter}
    {moments : List (Moment Event)}
    {start last : Int64}
    (counts : Counts limiter.table start)
    (spans : Spans start last moments) :
    Counts (after (step dialect) limiter moments).table last := by
  induction moments generalizing start limiter with
  | nil => exact counts.mono spans
  | cons moment rest ih =>
      exact ih (counts_step (counts.mono spans.1)) spans.2

end Limiter

end QuotaRing.Limit
