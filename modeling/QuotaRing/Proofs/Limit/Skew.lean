import Mathlib.Data.List.Perm.Subperm
import QuotaRing.Proofs.Limit.Dictated
import QuotaRing.Proofs.Limit.Recording
import QuotaRing.Proofs.Store.Forms
import QuotaRing.Proofs.Store.Uses

/-!
# Hits stamped by other clocks

Callers stamp hits by their own clocks, which differ from the clock of the table
by a skew at most, while the entry of a counter lives by the clock of the table.
A late stamp can thus push out hits that an earlier one would still count, and
so can the end of the entry's life.  Main statement: no interval that is shorter
than the window length by twice the skew takes in more stamps of allowed hits
than the quota allows.

The invariant speaks of young stamps, those that lie less than a window length
behind the latest stamp that can come at the present reading.  Whatever has been
forgotten, in either way, is not young, so a new stamp is counted together with
all allowed ones that share such an interval with it.
-/

namespace QuotaRing.Limit

open QuotaRing.Run (InOrder Spans history)
open QuotaRing.Store (Entry IsShort Key Reply Table Use readable?)
open QuotaRing.Wire (encode)

/-- The stamps in an interval of some length, its end excluded. -/
def between (stamps : List Int64) (first length : Int) : List Int64 :=
  stamps.filter fun stamp =>
    first ≤ stamp.toInt ∧ stamp.toInt < first + length

/-! ## Young stamps -/

/-- Whether a stamp counts together with every one that can come at `now`. -/
def isYoung (unit : TimeUnit) (skew : Nat) (now stamp : Int64) : Bool :=
  now.toInt + skew < stamp.toInt + unit.length

/-- Whether a clock that differs by a skew at most may read so at `now`. -/
def IsNear (skew : Nat) (now stamp : Int64) : Prop :=
  (stamp.toInt - now.toInt).natAbs ≤ skew

instance (skew : Nat) (now stamp : Int64) : Decidable (IsNear skew now stamp) :=
  inferInstanceAs (Decidable (_ ≤ _))

variable
    {unit : TimeUnit}
    {quota : Quota}
    {skew : Nat}
    {stamps : List Int64}
    {now later stamp : Int64}

theorem isYoung_of_later
    (ordered : now ≤ later)
    (young : isYoung unit skew later stamp = true) :
    isYoung unit skew now stamp = true := by
  have := Int64.le_iff_toInt_le.1 ordered
  simp only [isYoung, decide_eq_true_iff] at young ⊢
  omega

/-- As time passes, fewer stamps are young. -/
theorem young_sublist
    (unit : TimeUnit)
    (skew : Nat)
    (stamps : List Int64)
    (ordered : now ≤ later) :
    (stamps.filter (isYoung unit skew later)).Sublist
      (stamps.filter (isYoung unit skew now)) :=
  List.monotone_filter_right stamps fun _ => isYoung_of_later ordered

/-- A stamp pushes out no young one. -/
theorem cutoff_lt_of_isYoung
    (near : IsNear skew now stamp)
    (margin : HasMargin stamp)
    {hit : Int64}
    (young : isYoung unit skew now hit = true) :
    Saturating.sub stamp unit.millis < hit := by
  rw [IsNear] at near
  rw [Int64.lt_iff_toInt_lt, margin.toInt_sub]
  simp only [isYoung, decide_eq_true_iff] at young
  omega

/-- Whoever shares a short interval with a stamp is young when the stamp comes. -/
theorem between_sublist_young
    {first : Int}
    (near : IsNear skew now stamp)
    (inside : stamp.toInt < first + (unit.length - 2 * skew)) :
    (between stamps first (unit.length - 2 * skew)).Sublist
      (stamps.filter (isYoung unit skew now)) := by
  apply List.monotone_filter_right
  intro hit shares
  rw [IsNear] at near
  simp only [isYoung, decide_eq_true_iff] at shares ⊢
  omega

/-! ## What the entry remembers -/

/-- Whether what is stored for a counter holds all young stamps of a log. -/
inductive Remembers
    (quota : Quota)
    (skew : Nat)
    (stamps : List Int64)
    (now : Int64) :
    Option Entry → Prop where
  /-- The entry that the last hit has written. -/
  | entry
      (stored : Entry)
      (hits : List Int64)
      (last : Int64)
      (written : last ≤ now)
      (seen : ∀ stamp ∈ stamps, stamp.toInt ≤ last.toInt + skew)
      (value : stored.value = encode ({ quota, hits } : Window))
      (sorted : hits.Pairwise (· ≤ ·))
      (few : hits.length ≤ quota.value.toNat)
      (young : (stamps.filter (isYoung quota.unit skew now)).Subperm hits)
      (expires : stored.expiresAt.toInt = last.toInt + quota.unit.length) :
      Remembers quota skew stamps now (some stored)
  /-- Nothing, when no stamp is young. -/
  | nothing
      (old : stamps.filter (isYoung quota.unit skew now) = []) :
      Remembers quota skew stamps now none

namespace Remembers

variable {stored? : Option Entry}

theorem mono
    (remembers : Remembers quota skew stamps now stored?)
    (ordered : now ≤ later) :
    Remembers quota skew stamps later stored? := by
  have fewer := young_sublist quota.unit skew stamps ordered
  cases remembers with
  | entry stored hits last written seen value sorted few young expires =>
      exact .entry stored hits last (Int64.le_trans written ordered) seen value
        sorted few (fewer.subperm.trans young) expires
  | nothing old =>
      rw [old, List.sublist_nil] at fewer
      exact .nothing fewer

/-- When an entry has ceased to live, no stamp is young any more. -/
theorem filter_isLive
    (remembers : Remembers quota skew stamps now stored?) :
    Remembers quota skew stamps now (stored?.filter (·.isLive now)) := by
  cases remembers with
  | entry stored hits last written seen value sorted few young expires =>
      by_cases live : stored.isLive now = true
      · rw [Option.filter_some, if_pos live]
        exact .entry stored hits last written seen value sorted few young expires
      · rw [Option.filter_some, if_neg live]
        refine .nothing (List.filter_eq_nil_iff.2 ?_)
        intro stamp member
        have := seen stamp member
        have ended : ¬ now < stored.expiresAt := by
          simpa [Entry.isLive] using live
        have := Int64.le_iff_toInt_le.1 (Int64.not_lt.1 ended)
        simp only [isYoung, decide_eq_true_iff]
        omega
  | nothing old => exact .nothing old

end Remembers

/--
Whether a table holds what it needs of the log of the allowed stamps on the
counter under a key, which is within its bounds.
-/
structure Recounts
    (key : Key)
    (quota : Quota)
    (skew : Nat)
    (stamps : List Int64)
    (now : Int64)
    (table : Table) :
    Prop where
  bounded : ∀ first,
    (between stamps first (quota.unit.length - 2 * skew)).length ≤
      quota.value.toNat
  past : ∀ stamp ∈ stamps, stamp.toInt ≤ now.toInt + skew
  remembers : Remembers quota skew stamps now (table.find? key)

namespace Recounts

variable
    {key : Key}
    {table : Table}

theorem mono
    (recounts : Recounts key quota skew stamps now table)
    (ordered : now ≤ later) :
    Recounts key quota skew stamps later table where
  bounded := recounts.bounded
  past stamp member := by
    have := recounts.past stamp member
    have := Int64.le_iff_toInt_le.1 ordered
    omega
  remembers := recounts.remembers.mono ordered

theorem start (absent : table.find? key = none) :
    Recounts key quota skew [] now table where
  bounded first := Nat.zero_le _
  past stamp member := nomatch member
  remembers := by
    rw [absent]
    exact .nothing rfl

/-- Uses that do not write under the key of a counter do not touch it. -/
theorem aside
    (recounts : Recounts key quota skew stamps now table)
    {use : Use}
    (elsewhere : use.written? ≠ some key) :
    Recounts key quota skew stamps now (table.use now use).2 where
  bounded := recounts.bounded
  past := recounts.past
  remembers := by
    rcases table.find?_use now elsewhere with same | swept
    · rw [same]
      exact recounts.remembers
    · rw [swept]
      exact recounts.remembers.filter_isLive

/-- What a hit finds holds all young stamps. -/
theorem sees
    (recounts : Recounts key quota skew stamps now table)
    (short : IsShort quota) :
    ∃ hits : List Int64,
      (readable? (table.get? now key)).getD (Window.fresh quota) =
          { quota, hits } ∧
        hits.Pairwise (· ≤ ·) ∧
        hits.length ≤ quota.value.toNat ∧
        (stamps.filter (isYoung quota.unit skew now)).Subperm hits := by
  have remembers := recounts.remembers.filter_isLive
  rw [Table.get?]
  generalize (table.find? key).filter (·.isLive now) = stored? at remembers
  cases remembers with
  | entry stored hits last written seen value sorted few young expires =>
      have range := quota.value.toNat_lt
      have capacious : 2 ^ 32 ≤ Wire.capacity Wire.Width.eight.bytes := by decide
      have reads : Wire.Reads ({ quota, hits } : Window) :=
        Store.reads_window short (by simp only; omega)
      refine ⟨hits, ?_, sorted, few, young⟩
      rw [Option.map_some, value, Store.readable?_encode reads]
      rfl
  | nothing old =>
      refine ⟨[], rfl, .nil, Nat.zero_le _, ?_⟩
      exact old ▸ List.Subperm.refl []

/-- The stamp of a hit for which there is room keeps the log within its bounds. -/
theorem bounded_append
    (recounts : Recounts key quota skew stamps now table)
    (near : IsNear skew now stamp)
    (room : (stamps.filter (isYoung quota.unit skew now)).length <
      quota.value.toNat)
    (first : Int) :
    (between (stamps ++ [stamp]) first (quota.unit.length - 2 * skew)).length ≤
      quota.value.toNat := by
  rw [between, List.filter_append, List.length_append]
  have one := List.length_filter_le
    (fun stamp : Int64 => decide (first ≤ stamp.toInt ∧
      stamp.toInt < first + (quota.unit.length - 2 * skew))) [stamp]
  rw [List.length_singleton] at one
  by_cases inside : first ≤ stamp.toInt ∧
      stamp.toInt < first + (quota.unit.length - 2 * skew)
  · have fewer : (between stamps first (quota.unit.length - 2 * skew)).length ≤
        (stamps.filter (isYoung quota.unit skew now)).length :=
      (between_sublist_young near inside.2).length_le
    rw [between] at fewer
    omega
  · rw [List.filter_cons_of_neg (by simpa using inside), List.filter_nil]
    exact recounts.bounded first

theorem past_append
    (recounts : Recounts key quota skew stamps now table)
    (near : IsNear skew now stamp) :
    ∀ hit ∈ stamps ++ [stamp], hit.toInt ≤ now.toInt + skew := by
  intro hit member
  rcases List.mem_append.1 member with old | new
  · exact recounts.past hit old
  · rw [List.mem_singleton.1 new]
    rw [IsNear] at near
    omega

/-- An entry that is written with all young stamps recounts the log. -/
theorem put
    (bounded : ∀ first,
      (between stamps first (quota.unit.length - 2 * skew)).length ≤
        quota.value.toNat)
    (past : ∀ stamp ∈ stamps, stamp.toInt ≤ now.toInt + skew)
    (margin : HasMargin now)
    {hits : List Int64}
    (sorted : hits.Pairwise (· ≤ ·))
    (few : hits.length ≤ quota.value.toNat)
    (young : (stamps.filter (isYoung quota.unit skew now)).Subperm hits) :
    Recounts key quota skew stamps now
      (table.put now key (encode ({ quota, hits } : Window))
        quota.unit.span) where
  bounded := bounded
  past := past
  remembers := by
    rw [Table.find?_put_self]
    exact .entry _ hits now (Int64.le_refl now) past rfl sorted few young
      (margin.toInt_add quota.unit)

/--
A hit is counted against all young stamps, and the table recounts the log with
its stamp, if it is allowed.
-/
theorem hit
    (recounts : Recounts key quota skew stamps now table)
    (short : IsShort quota)
    (margin : HasMargin now)
    (stamped : HasMargin stamp)
    (near : IsNear skew now stamp)
    (method : Method) :
    ∃ (verdict : Verdict) (window : Window),
      Window.countHit { quota, method, stamp }
          (readable? (table.get? now key)) = (window, verdict) ∧
        Recounts key quota skew (verdict.logged stamps stamp) now
          (table.put now key (encode window) quota.unit.span) := by
  rcases recounts.sees short with ⟨hits, found, sorted, few, young⟩
  have counts : Window.countHit { quota, method, stamp }
      (readable? (table.get? now key)) = Window.track { quota, hits } stamp := by
    rw [Window.countHit, found]
  have remembered : (stamps.filter (isYoung quota.unit skew now)).Subperm
      (Window.kept { quota, hits } stamp) := by
    have above := young.filter (Window.cutoff { quota, hits } stamp < ·)
    rw [List.filter_eq_self.2] at above
    · exact above
    · intro hit member
      exact decide_eq_true
        (cutoff_lt_of_isYoung near stamped (List.mem_filter.1 member).2)
  have inOrder : ({ quota, hits } : Window).hits.Pairwise (· ≤ ·) := sorted
  rw [counts]
  by_cases room : (Window.kept { quota, hits } stamp).length <
      quota.value.toNat
  · rcases Window.track_of_room stamp inOrder room with
      ⟨counted, perm, ordered, tracked⟩
    refine ⟨_, _, tracked, put ?_ (recounts.past_append near) margin ordered ?_ ?_⟩
    · exact recounts.bounded_append near
        (Nat.lt_of_le_of_lt remembered.length_le room)
    · rw [perm.length_eq]
      exact room
    · have added := remembered.append
        (List.filter_sublist (p := isYoung quota.unit skew now)
          (l := [stamp])).subperm
      rw [← List.filter_append] at added
      exact added.trans
        ((List.perm_append_singleton stamp _).trans perm.symm).subperm
  · have tracked := Window.track_of_full stamp inOrder room
    have same : Verdict.logged (Window.verdict
        { quota, hits := Window.kept { quota, hits } stamp } false stamp)
        stamps stamp = stamps := List.append_nil stamps
    refine ⟨_, _, tracked, ?_⟩
    rw [same]
    exact put recounts.bounded recounts.past margin
      (Window.sorted_kept stamp inOrder)
      (Nat.le_trans (List.length_filter_le _ hits) few) remembered

end Recounts

/-! ## Runs -/

/-- The hit that a use tracks under a key. -/
def trackedUnder? (key : Key) : Use → Option Hit
  | .patch written (.trackHit hit) _ =>
      if written = key then some hit else none
  | _ => none

/-- Whether a reply is a verdict that allows a hit. -/
def allowsHit : Reply → Bool
  | .patched result =>
      match Wire.decode result with
      | .ok (verdict : Verdict) => verdict.allowed
      | .error _ => false
  | _ => false

/-- The stamp of a record that is an allowed hit under a key. -/
def allowedStamp? (key : Key) (record : Record Table Use Reply) : Option Int64 :=
  if allowsHit record.answer then
    (trackedUnder? key record.moment.event).map Hit.stamp
  else none

/--
What may happen at a moment for the sake of the counter under a key: a hit
against its quota, stamped near the reading of the table's clock, both of them
away from the ends of the range, in an entry for one window length; or a use
that does not write under the key.
-/
inductive IsSkewedUse
    (key : Key)
    (quota : Quota)
    (skew : Nat) :
    Moment Use → Prop where
  | hit
      (now stamp : Int64)
      (method : Method)
      (margin : HasMargin now)
      (stamped : HasMargin stamp)
      (near : IsNear skew now stamp) :
      IsSkewedUse key quota skew
        ⟨now, .patch key (.trackHit { quota, method, stamp }) quota.unit.span⟩
  | aside
      (now : Int64)
      (use : Use)
      (elsewhere : use.written? ≠ some key) :
      IsSkewedUse key quota skew ⟨now, use⟩

section Uses

variable
    {key : Key}
    {table : Table}

/-- A use that does not write under a key is no hit under it. -/
theorem trackedUnder?_eq_none
    {use : Use}
    (elsewhere : use.written? ≠ some key) :
    trackedUnder? key use = none := by
  cases use with
  | patch written change lifetime =>
      have other : written ≠ key := fun same => elsewhere (congrArg some same)
      cases change with
      | increment delta => rfl
      | trackHit hit => exact if_neg other
  | get read => rfl
  | put written value lifetime => rfl
  | remove written => rfl
  | sweep => rfl

theorem allowsHit_encode (verdict : Verdict) :
    allowsHit (.patched (encode verdict)) = verdict.allowed := by
  rw [allowsHit, (Store.reads_verdict verdict).decode]

/-- One use keeps the log recounted. -/
theorem Recounts.use
    {moment : Moment Use}
    (recounts : Recounts key quota skew stamps moment.now table)
    (short : IsShort quota)
    (suits : IsSkewedUse key quota skew moment) :
    Recounts key quota skew
      (stamps ++ (allowedStamp? key
        { before := table
          moment := moment
          answer := (table.use moment.now moment.event).1 }).toList)
      moment.now (table.use moment.now moment.event).2 := by
  cases suits with
  | hit now stamp method margin stamped near =>
      rcases recounts.hit short margin stamped near method with
        ⟨verdict, window, counted, next⟩
      have used : table.use now
          (.patch key (.trackHit { quota, method, stamp }) quota.unit.span) =
          (.patched (encode verdict),
            table.put now key (encode window) quota.unit.span) := by
        simp only [Table.use, Table.patch, Store.Patch.apply, counted,
          Prod.map_apply, id_eq]
      have logged : stamps ++ (allowedStamp? key
          { before := table
            moment := ⟨now, .patch key (.trackHit { quota, method, stamp })
              quota.unit.span⟩
            answer := .patched (encode verdict) }).toList =
          verdict.logged stamps stamp := by
        rw [allowedStamp?, allowsHit_encode, trackedUnder?, if_pos rfl,
          Verdict.logged]
        split
        · rfl
        · rfl
      rw [used, logged]
      exact next
  | aside now use elsewhere =>
      have unmoved : allowedStamp? key
          { before := table
            moment := ⟨now, use⟩
            answer := (table.use now use).1 } = none := by
        rw [allowedStamp?, trackedUnder?_eq_none elsewhere]
        exact ite_self none
      rw [unmoved, Option.toList_none, List.append_nil]
      exact recounts.aside elsewhere

/-- A run keeps the log recounted. -/
theorem Recounts.after
    {moments : List (Moment Use)}
    {start last : Int64}
    (recounts : Recounts key quota skew stamps start table)
    (short : IsShort quota)
    (suits : ∀ moment ∈ moments, IsSkewedUse key quota skew moment)
    (spans : Spans start last moments) :
    Recounts key quota skew
      (stamps ++ (history Table.use table moments).filterMap (allowedStamp? key))
      last (Run.after Table.use table moments) := by
  induction moments generalizing stamps start table with
  | nil =>
      rw [history, List.filterMap_nil, List.append_nil]
      exact recounts.mono spans
  | cons moment rest ih =>
      have next := (recounts.mono spans.1).use short
        (suits moment List.mem_cons_self)
      have rested := ih next
        (fun later member => suits later (List.mem_cons_of_mem moment member))
        spans.2
      rw [List.append_assoc] at rested
      rw [history, List.filterMap_cons]
      generalize allowedStamp? key _ = stamp? at rested ⊢
      cases stamp? with
      | none => exact rested
      | some stamp => exact rested

end Uses

/--
Hits on one counter are stamped by clocks that differ from the clock of its table
by a skew at most.  In every run of the table that starts without the counter,
no interval that is shorter than the window length by twice the skew takes in
more stamps of allowed hits than the quota allows.
-/
theorem quota_safety_of_skew
    (key : Key)
    (quota : Quota)
    (skew : Nat)
    (table : Table)
    (moments : List (Moment Use))
    (short : IsShort quota)
    (absent : table.find? key = none)
    (ordered : InOrder moments)
    (suits : ∀ moment ∈ moments, IsSkewedUse key quota skew moment)
    (first : Int) :
    (between
      ((history Table.use table moments).filterMap (allowedStamp? key))
      first (quota.unit.length - 2 * skew)).length ≤ quota.value.toNat := by
  have spans : Spans Int64.minValue Int64.maxValue moments :=
    Run.spans_of_le ordered fun moment _ => Int64.le_maxValue moment.now
  have recounts := (Recounts.start absent).after short suits spans
  exact recounts.bounded first

/-- A limit of one hit in a second is hit by callers whose clocks are 200 ms off. -/
theorem quota_safety_of_skew_secondly :
    let key : Key := ⟨"login", by decide⟩
    let quota : Quota := { id := "login", unit := .second, value := 1 }
    let hit (stamp : Int64) : Use :=
      .patch key (.trackHit { quota, method := .post, stamp }) quota.unit.span
    let moments : List (Moment Use) :=
      [⟨1700000000000, hit 1700000000200⟩,
        ⟨1700000000100, hit 1699999999900⟩,
        ⟨1700000000500, .put ⟨"other", by decide⟩ [1] (.ofSeconds 1)⟩,
        ⟨1700000000900, .sweep⟩,
        ⟨1700000001000, hit 1700000001200⟩]
    (history Table.use .empty moments).filterMap (allowedStamp? key) =
        [1700000000200, 1700000001200] ∧
      ∀ first : Int,
        (between
          ((history Table.use .empty moments).filterMap (allowedStamp? key))
          first 600).length ≤ 1 := by
  intro key quota hit moments
  refine ⟨by decide +kernel, ?_⟩
  have suits : ∀ moment ∈ moments, IsSkewedUse key quota 200 moment := by
    intro moment member
    simp only [moments, List.mem_cons, List.not_mem_nil, or_false] at member
    rcases member with rfl | rfl | rfl | rfl | rfl
    · exact .hit _ _ _ (by decide) (by decide) (by decide)
    · exact .hit _ _ _ (by decide) (by decide) (by decide)
    · exact .aside _ _ (by decide)
    · exact .aside _ _ (by decide)
    · exact .hit _ _ _ (by decide) (by decide) (by decide)
  have short : IsShort quota := by
    rw [IsShort]
    decide
  have length : quota.unit.length - 2 * ((200 : Nat) : Int) = 600 := by decide
  have safe := quota_safety_of_skew key quota 200 .empty moments short rfl
    (by decide) suits
  rw [length] at safe
  exact safe

end QuotaRing.Limit
