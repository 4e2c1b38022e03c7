import QuotaRing.Proofs.Limit.Promise
import QuotaRing.Proofs.Limit.Skew
import QuotaRing.Proofs.Limit.Tracking

/-!
# What is stored for a counter

Hits are tracked under one key, with stamps of any order and any size and against
definitions that change from one to the next.  Main statement: whatever came
before, a hit leaves the form of a window that counts against its own definition,
holds stamps of allowed hits in order, none of them twice or too old, and differs
from the window before by what is too old and by the hit, if it is allowed.

The invariant is on the hits of the window that the stored bytes hold.  They are
in order before every hit, so what is dropped from their front is all that is too
old, and halving finds the place of the next.
-/

namespace QuotaRing.Limit

open QuotaRing.Saturating (lowest)
open QuotaRing.Store (IsShort Patch readable?)
open QuotaRing.Wire (encode)

/-- The last stamp that is too old for the window that ends with a hit. -/
def Hit.cutoff (hit : Hit) : Int64 :=
  Saturating.sub hit.stamp hit.quota.unit.millis

/-- The hits of the window that is stored after hits; none if none is stored. -/
def heldAfter (hits : List Hit) : List Int64 :=
  match (readable? (storedAfter hits) : Option Window) with
  | some window => window.hits
  | none => []

/-- The stamps of the hits that are answered allowed, from what is stored. -/
def admittedStampsFrom (stored? : Option (List UInt8)) : List Hit → List Int64
  | [] => []
  | hit :: rest =>
      let patched := (Patch.trackHit hit).apply stored?
      (if allowsHit (.patched patched.result) then [hit.stamp] else []) ++
        admittedStampsFrom (some patched.value) rest

/-- The stamps of the hits that are answered allowed if nothing is stored at first. -/
def admittedStamps (hits : List Hit) : List Int64 :=
  admittedStampsFrom none hits

/-- What a hit leaves and is answered that comes after others. -/
structure Aftermath
    (earlier : List Hit)
    (hit : Hit)
    (window : Window)
    (verdict : Verdict) :
    Prop where
  quota_eq : window.quota = hit.quota
  sorted : window.hits.Pairwise (· ≤ ·)
  counted : window.hits.Subperm (admittedStamps (earlier ++ [hit]))
  /-- Only the hit itself may be no later, if its cutoff stopped at the end. -/
  young : ∀ stamp ∈ window.hits,
    hit.cutoff < stamp ∨
      stamp = hit.stamp ∧ hit.stamp.toInt - hit.quota.unit.length < lowest
  few : ∃ other ∈ earlier ++ [hit],
    window.hits.length ≤ other.quota.value.toNat
  changed :
    window.hits.Perm
      ((if verdict.allowed then [hit.stamp] else []) ++
        (heldAfter earlier).filter (hit.cutoff < ·))
  allowed_iff :
    verdict.allowed = true ↔
      ((heldAfter earlier).filter (hit.cutoff < ·)).length <
        hit.quota.value.toNat
  remaining_eq :
    verdict.remaining.toNat = hit.quota.value.toNat - window.hits.length

/-! ## One hit -/

/-- The window that a hit finds, counted against its own definition. -/
def foundAfter (earlier : List Hit) (quota : Quota) : Window where
  quota := quota
  hits := heldAfter earlier

variable
    {earlier : List Hit}
    {hit : Hit}

theorem countHit_stored (earlier : List Hit) (hit : Hit) :
    Window.countHit hit (readable? (storedAfter earlier)) =
      (foundAfter earlier hit.quota).track hit.stamp := by
  rw [Window.countHit, foundAfter, heldAfter]
  cases (readable? (storedAfter earlier) : Option Window) with
  | none => rfl
  | some window => rfl

theorem storedAfter_eq (earlier : List Hit) (hit : Hit) :
    storedAfter (earlier ++ [hit]) =
      some (encode ((foundAfter earlier hit.quota).track hit.stamp).1) := by
  rw [storedAfter_concat, Patch.apply, countHit_stored]

theorem admittedStampsFrom_concat
    (stored? : Option (List UInt8))
    (earlier : List Hit)
    (hit : Hit) :
    admittedStampsFrom stored? (earlier ++ [hit]) =
      admittedStampsFrom stored? earlier ++
        admittedStampsFrom
          (earlier.foldl
            (fun stored? hit => some ((Patch.trackHit hit).apply stored?).value)
            stored?)
          [hit] := by
  induction earlier generalizing stored? with
  | nil => rfl
  | cons first rest ih =>
      rw [List.cons_append, admittedStampsFrom, admittedStampsFrom, ih,
        List.append_assoc]
      rfl

theorem admittedStamps_concat (earlier : List Hit) (hit : Hit) :
    admittedStamps (earlier ++ [hit]) =
      admittedStamps earlier ++
        if ((foundAfter earlier hit.quota).track hit.stamp).2.allowed then
          [hit.stamp]
        else [] := by
  rw [admittedStamps, admittedStampsFrom_concat, ← storedAfter, admittedStampsFrom,
    Patch.apply, countHit_stored]
  simp only [allowsHit_encode, admittedStampsFrom, List.append_nil]
  rfl

/-- Only a cutoff that stopped at the end of the range is not before its stamp. -/
theorem Hit.saturates (old : ¬ hit.cutoff < hit.stamp) :
    hit.stamp.toInt - hit.quota.unit.length < lowest := by
  have positive := hit.quota.unit.length_pos
  have most := hit.stamp.toInt_lt
  rw [Int64.lt_iff_toInt_lt, Hit.cutoff, Saturating.toInt_sub] at old
  simp only [TimeUnit.length, Saturating.highest] at *
  omega

/-! ## Hit after hit -/

/-- What is so of the stored hits whenever a hit comes. -/
structure HeldSoundly (hits : List Hit) : Prop where
  sorted : (heldAfter hits).Pairwise (· ≤ ·)
  counted : (heldAfter hits).Subperm (admittedStamps hits)
  few : heldAfter hits ≠ [] →
    ∃ hit ∈ hits, (heldAfter hits).length ≤ hit.quota.value.toNat

namespace HeldSoundly

/-- The next hit leaves no more hits than one of the definitions so far allows. -/
theorem length_le (kept : HeldSoundly earlier) (hit : Hit) :
    ∃ other ∈ earlier ++ [hit],
      ((foundAfter earlier hit.quota).track hit.stamp).1.hits.length ≤
        other.quota.value.toNat := by
  have tracked := @Window.tracked_track (foundAfter earlier hit.quota)
    kept.sorted hit.stamp
  rcases tracked.length_le with fewer | allowed
  · by_cases empty : heldAfter earlier = []
    · have none : (foundAfter earlier hit.quota).hits.length = 0 :=
        congrArg List.length empty
      exact ⟨hit, by simp, by omega⟩
    · rcases kept.few empty with ⟨other, member, most⟩
      exact ⟨other, List.mem_append_left _ member, Nat.le_trans fewer most⟩
  · exact ⟨hit, by simp, allowed⟩

theorem aftermath (kept : HeldSoundly earlier) (hit : Hit) :
    Aftermath earlier hit
      ((foundAfter earlier hit.quota).track hit.stamp).1
      ((foundAfter earlier hit.quota).track hit.stamp).2 := by
  have tracked := @Window.tracked_track (foundAfter earlier hit.quota)
    kept.sorted hit.stamp
  refine ⟨tracked.quota_eq, tracked.sorted, ?_, ?_, kept.length_le hit,
    tracked.perm, tracked.allowed_iff, ?_⟩
  · rw [admittedStamps_concat]
    refine tracked.perm.subperm.trans (.trans ?_ List.perm_append_comm.subperm)
    exact (List.Subperm.refl _).append
      (List.filter_sublist.subperm.trans kept.counted)
  · intro stamp member
    rcases tracked.mem_or_eq member with old | rfl
    · exact .inl (of_decide_eq_true (List.mem_filter.1 old).2)
    · by_cases above : hit.cutoff < hit.stamp
      · exact .inl above
      · exact .inr ⟨rfl, hit.saturates above⟩
  · rw [tracked.remaining_eq, Window.remaining, tracked.quota_eq]
    rfl

end HeldSoundly

/-- What a hit leaves reads back. -/
theorem Aftermath.reads
    {window : Window}
    {verdict : Verdict}
    (aftermath : Aftermath earlier hit window verdict)
    (short : IsShort hit.quota) :
    Wire.Reads window := by
  rcases aftermath.few with ⟨other, _, most⟩
  have range := other.quota.value.toNat_lt
  have capacious : 2 ^ 32 ≤ Wire.capacity Wire.Width.eight.bytes := by decide
  refine Store.reads_window ?_ (by omega)
  rw [aftermath.quota_eq]
  exact short

/-- The hits that are stored next are those of the window that the hit leaves. -/
theorem HeldSoundly.concat
    (kept : HeldSoundly earlier)
    (short : IsShort hit.quota) :
    HeldSoundly (earlier ++ [hit]) := by
  have aftermath := kept.aftermath hit
  have held : heldAfter (earlier ++ [hit]) =
      ((foundAfter earlier hit.quota).track hit.stamp).1.hits := by
    rw [heldAfter, storedAfter_eq, Store.readable?_encode (aftermath.reads short)]
  constructor
  · rw [held]
    exact aftermath.sorted
  · rw [held]
    exact aftermath.counted
  · intro _
    rw [held]
    exact aftermath.few

theorem heldSoundly
    {hits : List Hit}
    (short : ∀ hit ∈ hits, IsShort hit.quota) :
    HeldSoundly hits := by
  induction hits using List.reverseRecOn with
  | nil => exact ⟨.nil, .refl _, fun some => absurd rfl some⟩
  | append_singleton earlier hit ih =>
      have before := ih fun other member =>
        short other (List.mem_append_left _ member)
      exact before.concat (short hit (by simp))

/--
Hits are tracked one after another under a key that holds nothing at first.  What
is stored after each of them is the form of a window and its answer that of a
verdict: the window counts against the definition of this hit, holds stamps of
allowed hits in order and no more than one of the definitions so far allows, none
of them too old, and has changed by what is too old and, exactly if the hit is
allowed, by its stamp; and the verdict tells what the window leaves.
-/
theorem hit_leaves_sound_window
    (earlier : List Hit)
    (hit : Hit)
    (short : ∀ counted ∈ earlier ++ [hit], IsShort counted.quota) :
    ∃ (bytes : List UInt8) (window : Window) (verdict : Verdict),
      storedAfter (earlier ++ [hit]) = some bytes ∧
        Wire.decode bytes = .ok window ∧
        Wire.decode (answerAfter earlier hit) = .ok verdict ∧
        Aftermath earlier hit window verdict := by
  have kept : HeldSoundly earlier := heldSoundly fun other member =>
    short other (List.mem_append_left _ member)
  have aftermath := kept.aftermath hit
  refine ⟨_, _, _, storedAfter_eq earlier hit,
    (aftermath.reads (short hit (by simp))).decode, ?_, aftermath⟩
  rw [decode_answerAfter, countHit_stored]

/--
Three hits in a minute are allowed.  The first has its stamp at the lower end of
the range, which is too old for the second.  Then the definition changes, and a
hit comes with a stamp between those that are held.
-/
theorem hit_leaves_sound_window_saturated :
    let hit (unit : TimeUnit) (value : UInt32) (stamp : Int64) : Hit :=
      { quota := { id := "orders", unit, value }, method := .get, stamp }
    let earlier :=
      [hit .minute 3 (-0x8000000000000000), hit .minute 3 (-0x7ffffffffffffff0),
        hit .minute 3 (-0x7fffffffffffff00)]
    let last := hit .hour 4 (-0x7fffffffffffff80)
    (∀ counted ∈ earlier ++ [last], IsShort counted.quota) ∧
      heldAfter earlier = [-0x7ffffffffffffff0, -0x7fffffffffffff00] ∧
      heldAfter (earlier ++ [last]) =
        [-0x7ffffffffffffff0, -0x7fffffffffffff80, -0x7fffffffffffff00] ∧
      ∃ (bytes : List UInt8) (window : Window) (verdict : Verdict),
        storedAfter (earlier ++ [last]) = some bytes ∧
          Wire.decode bytes = .ok window ∧
          Wire.decode (answerAfter earlier last) = .ok verdict ∧
          Aftermath earlier last window verdict := by
  intro hit earlier last
  have short : ∀ counted ∈ earlier ++ [last], IsShort counted.quota := by
    intro counted member
    have named : counted.quota.id = "orders" := by
      simp only [earlier, last, List.cons_append, List.nil_append, List.mem_cons,
        List.not_mem_nil, or_false] at member
      rcases member with rfl | rfl | rfl | rfl
      all_goals rfl
    rw [IsShort, named]
    decide
  exact ⟨short, by decide +kernel, by decide +kernel,
    hit_leaves_sound_window earlier last short⟩

end QuotaRing.Limit
