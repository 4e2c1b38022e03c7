import Mathlib.Data.List.Induction
import QuotaRing.Proofs.Limit.Recording
import QuotaRing.Proofs.Store.Forms

/-!
# The promise of a refusal

The verdict on a refused hit promises an instant at which the next one would be
allowed: when the oldest hit of the window is as old as the window is long.  The
definition of a limit may change from one hit to the next, and a window then
goes on with what it has counted under earlier ones.  Main statement: the
promise is kept exactly if the hits that are later than the oldest leave room,
so always if no earlier definition allowed more hits, and not in general if one
did.
-/

namespace QuotaRing.Limit

open QuotaRing.Store (IsShort Patch readable?)
open QuotaRing.Wire (encode)

/-! ## Hits that are counted one after another -/

/-- What is stored for a counter after hits that found nothing at first. -/
def storedAfter (hits : List Hit) : Option (List UInt8) :=
  hits.foldl (fun stored? hit => some ((Patch.trackHit hit).apply stored?).value)
    none

/-- What a hit is answered that comes after others. -/
def answerAfter (hits : List Hit) (hit : Hit) : List UInt8 :=
  ((Patch.trackHit hit).apply (storedAfter hits)).result

/-- The stamps that are not too old for the window that ends with a hit. -/
def Hit.counted (hit : Hit) (stamps : List Int64) : List Int64 :=
  stamps.filter fun stamp =>
    hit.stamp.toInt - hit.quota.unit.length < stamp.toInt

/-- The stamps that are left when a hit has been counted against others. -/
def Hit.leaves (hit : Hit) (stamps : List Int64) : List Int64 :=
  if (hit.counted stamps).length < hit.quota.value.toNat then
    hit.counted stamps ++ [hit.stamp]
  else hit.counted stamps

/--
The stamps of the allowed hits that have not been too old for any hit after
them.
-/
def surviving (hits : List Hit) : List Int64 :=
  hits.foldl (fun stamps hit => hit.leaves stamps) []

theorem surviving_concat (hits : List Hit) (hit : Hit) :
    surviving (hits ++ [hit]) = hit.leaves (surviving hits) := by
  rw [surviving, List.foldl_append]
  rfl

theorem storedAfter_concat (hits : List Hit) (hit : Hit) :
    storedAfter (hits ++ [hit]) =
      some ((Patch.trackHit hit).apply (storedAfter hits)).value := by
  rw [storedAfter, List.foldl_append]
  rfl

theorem decode_answerAfter (hits : List Hit) (hit : Hit) :
    Wire.decode (answerAfter hits hit) =
      .ok (Window.countHit hit (readable? (storedAfter hits))).2 :=
  (Store.reads_verdict _).decode

theorem length_leaves_le
    {hit : Hit}
    {stamps : List Int64}
    {bound : Nat}
    (few : stamps.length ≤ bound)
    (within : hit.quota.value.toNat ≤ bound) :
    (hit.leaves stamps).length ≤ bound := by
  have fewer : (hit.counted stamps).length ≤ stamps.length :=
    List.length_filter_le _ _
  rw [Hit.leaves]
  split
  · rw [List.length_append, List.length_singleton]
    omega
  · omega

/-- No more stamps survive than the most generous definition allows. -/
theorem length_surviving_le
    {hits : List Hit}
    {bound : Nat}
    (within : ∀ hit ∈ hits, hit.quota.value.toNat ≤ bound) :
    (surviving hits).length ≤ bound := by
  induction hits using List.reverseRecOn with
  | nil => exact Nat.zero_le bound
  | append_singleton hits hit ih =>
      rw [surviving_concat]
      exact length_leaves_le
        (ih fun other member => within other (List.mem_append_left _ member))
        (within hit (by simp))

theorem mem_surviving
    {hits : List Hit}
    {stamp : Int64}
    (member : stamp ∈ surviving hits) :
    ∃ hit ∈ hits, hit.stamp = stamp := by
  induction hits using List.reverseRecOn with
  | nil => cases member
  | append_singleton hits hit ih =>
      rw [surviving_concat, Hit.leaves] at member
      have old : stamp ∈ hit.counted (surviving hits) →
          ∃ other ∈ hits ++ [hit], other.stamp = stamp := by
        intro counted
        rcases ih (List.mem_filter.1 counted).1 with ⟨other, held, same⟩
        exact ⟨other, List.mem_append_left _ held, same⟩
      split at member
      · rcases List.mem_append.1 member with counted | new
        · exact old counted
        · exact ⟨hit, by simp, (List.mem_singleton.1 new).symm⟩
      · exact old member

/-! ## The window that is stored -/

/-- Whether a window holds the surviving stamps of some hits, in order. -/
structure Window.Retains (window : Window) (hits : List Hit) : Prop where
  perm : window.hits.Perm (surviving hits)
  sorted : window.hits.Pairwise (· ≤ ·)

/--
A hit whose stamp has a margin is allowed if the surviving stamps it counts
leave room, and the window afterwards retains what survives it.
-/
theorem Window.Retains.track
    {window : Window}
    {hits : List Hit}
    (retains : window.Retains hits)
    {hit : Hit}
    (margin : HasMargin hit.stamp)
    (current : window.quota = hit.quota) :
    ∃ next : Window,
      next.quota = hit.quota ∧
      next.Retains (hits ++ [hit]) ∧
      window.track hit.stamp =
        (next, next.verdict
          (decide ((hit.counted (surviving hits)).length <
            hit.quota.value.toNat)) hit.stamp) := by
  have kept : (window.kept hit.stamp).Perm (hit.counted (surviving hits)) := by
    have same : window.kept hit.stamp = hit.counted window.hits := by
      apply List.filter_congr
      intro stamp _
      have unsaturated := margin.toInt_sub hit.quota.unit
      apply Bool.eq_iff_iff.2
      simp only [decide_eq_true_eq, Int64.lt_iff_toInt_lt, cutoff, length,
        current, unsaturated]
    rw [same]
    exact retains.perm.filter _
  have count := kept.length_eq
  by_cases room : (hit.counted (surviving hits)).length < hit.quota.value.toNat
  · rcases track_of_room hit.stamp retains.sorted
      (by rw [count, current]; exact room) with ⟨counted, perm, sorted, tracked⟩
    refine ⟨{ window with hits := counted }, current, ⟨?_, sorted⟩, ?_⟩
    · rw [surviving_concat, Hit.leaves, if_pos room]
      exact (perm.trans (kept.cons hit.stamp)).trans
        (List.perm_append_singleton hit.stamp _).symm
    · rw [tracked, decide_eq_true room]
  · refine ⟨{ window with hits := window.kept hit.stamp }, current,
      ⟨?_, sorted_kept hit.stamp retains.sorted⟩, ?_⟩
    · rw [surviving_concat, Hit.leaves, if_neg room]
      exact kept
    · rw [track_of_full hit.stamp retains.sorted
        (by rw [count, current]; exact room), decide_eq_false room]

/-- What may be said of hits whose texts and stamps are within their bounds. -/
structure IsSound (hit : Hit) : Prop where
  short : IsShort hit.quota
  margin : HasMargin hit.stamp

/-- The window that a hit finds after others retains what survives them. -/
theorem exists_retains
    {hits : List Hit}
    (sound : ∀ hit ∈ hits, IsSound hit)
    (quota : Quota) :
    ∃ found : Window,
      found.quota = quota ∧
      found.Retains hits ∧
      ∀ method stamp,
        Window.countHit { quota, method, stamp }
            (readable? (storedAfter hits)) = found.track stamp := by
  induction hits using List.reverseRecOn generalizing quota with
  | nil => exact ⟨.fresh quota, rfl, ⟨.nil, .nil⟩, fun _ _ => rfl⟩
  | append_singleton hits hit ih =>
      have earlier : ∀ other ∈ hits, IsSound other := fun other member =>
        sound other (List.mem_append_left _ member)
      have last := sound hit (by simp)
      rcases ih earlier hit.quota with ⟨found, current, retains, counts⟩
      rcases retains.track last.margin current with
        ⟨window, same, retained, tracked⟩
      have few : window.hits.length < Wire.capacity Wire.Width.eight.bytes := by
        rw [retained.perm.length_eq]
        have most : (surviving (hits ++ [hit])).length ≤ 2 ^ 32 :=
          length_surviving_le fun other _ => Nat.le_of_lt other.quota.value.toNat_lt
        exact Nat.lt_of_le_of_lt most (by decide)
      have reads : Wire.Reads window :=
        Store.reads_window (same ▸ last.short) few
      have stored : storedAfter (hits ++ [hit]) = some (encode window) := by
        rw [storedAfter_concat, Patch.apply, counts hit.method hit.stamp, tracked]
      refine ⟨{ window with quota := quota }, rfl,
        ⟨retained.perm, retained.sorted⟩, ?_⟩
      intro method stamp
      rw [stored, Store.readable?_encode reads, Window.countHit, Option.getD_some]

/-! ## The promised instant -/

/-- A full window promises the instant at which its oldest stamp is too old. -/
theorem Window.Retains.nextAvailable
    {window : Window}
    {hits : List Hit}
    (retains : window.Retains hits)
    (sound : ∀ hit ∈ hits, IsSound hit)
    (full : window.remaining = 0)
    (positive : 0 < window.quota.value)
    (now : Int64) :
    ∃ oldest ∈ surviving hits,
      (∀ stamp ∈ surviving hits, oldest ≤ stamp) ∧
      (window.nextAvailable now).toInt =
        oldest.toInt + window.quota.unit.length := by
  rcases Window.exists_oldest full retains.sorted
      (Window.hits_ne_nil_of_full full positive) now with
    ⟨oldest, member, first, next⟩
  have held : oldest ∈ surviving hits := retains.perm.mem_iff.1 member
  rcases mem_surviving held with ⟨hit, counted, rfl⟩
  refine ⟨hit.stamp, held, ?_, ?_⟩
  · intro stamp survives
    exact first stamp (retains.perm.mem_iff.2 survives)
  · rw [next]
    exact (sound hit counted).margin.toInt_add window.quota.unit

/-- A hit at an instant one window length after a stamp forgets what is not later. -/
theorem Window.allowed_track_iff
    {window : Window}
    {hits : List Hit}
    (retains : window.Retains hits)
    {oldest instant : Int64}
    (promised : instant.toInt = oldest.toInt + window.quota.unit.length) :
    (window.track instant).2.allowed = true ↔
      ((surviving hits).filter (oldest < ·)).length <
        window.quota.value.toNat := by
  have cutoff : window.cutoff instant = oldest := by
    have least := oldest.le_toInt
    have most := oldest.toInt_lt
    apply Int64.toInt_inj.1
    rw [Window.cutoff, Saturating.toInt_sub, promised]
    simp only [Window.length, TimeUnit.length, Saturating.lowest,
      Saturating.highest]
    omega
  have count : (window.kept instant).length =
      ((surviving hits).filter (oldest < ·)).length := by
    rw [Window.kept, cutoff]
    exact (retains.perm.filter _).length_eq
  rw [← count]
  by_cases room : (window.kept instant).length < window.quota.value.toNat
  · rcases Window.track_of_room instant retains.sorted room with
      ⟨counted, _, _, tracked⟩
    rw [tracked]
    exact iff_of_true rfl room
  · rw [Window.track_of_full instant retains.sorted room]
    exact iff_of_false Bool.false_ne_true room

/--
A hit that is refused, by a definition that allows any hits at all, is promised
the instant at which the oldest surviving stamp is one window length old.  The
same hit at that instant is allowed exactly if the stamps that are later than
the oldest leave room, and so if no earlier definition allowed more hits.
-/
theorem retry_allowed_iff
    (earlier : List Hit)
    (hit : Hit)
    (retried : Method)
    (sound : ∀ counted ∈ earlier ++ [hit], IsSound counted)
    (positive : 0 < hit.quota.value)
    {verdict : Verdict}
    (told : Wire.decode (answerAfter earlier hit) = .ok verdict)
    (refused : verdict.allowed = false) :
    ∃ oldest ∈ surviving (earlier ++ [hit]), ∃ retry : Verdict,
      (∀ stamp ∈ surviving (earlier ++ [hit]), oldest ≤ stamp) ∧
      verdict.nextAvailable.toInt =
        oldest.toInt + hit.quota.unit.length ∧
      Wire.decode (answerAfter (earlier ++ [hit])
        { hit with method := retried, stamp := verdict.nextAvailable }) =
          .ok retry ∧
      (retry.allowed = true ↔
        ((surviving (earlier ++ [hit])).filter (oldest < ·)).length <
          hit.quota.value.toNat) ∧
      ((∀ counted ∈ earlier, counted.quota.value ≤ hit.quota.value) →
        retry.allowed = true) := by
  have before : ∀ counted ∈ earlier, IsSound counted := fun counted member =>
    sound counted (List.mem_append_left _ member)
  have last : IsSound hit := sound hit (by simp)
  rcases exists_retains before hit.quota with ⟨found, current, retains, counts⟩
  rcases retains.track last.margin current with
    ⟨window, quota, retained, tracked⟩
  -- The verdict that was told is that of the window after the refused hit.
  rw [decode_answerAfter, counts hit.method hit.stamp, tracked] at told
  cases told
  have full : ¬ (hit.counted (surviving earlier)).length <
      hit.quota.value.toNat := of_decide_eq_false refused
  have none : window.remaining = 0 := by
    rw [Window.remaining, quota, retained.perm.length_eq, surviving_concat,
      Hit.leaves, if_neg full]
    omega
  rcases retained.nextAvailable sound none (quota ▸ positive) hit.stamp with
    ⟨oldest, held, least, promised⟩
  -- The retry finds the same stamps under the same definition.
  rcases exists_retains sound hit.quota with ⟨again, same, retainsAgain, countsAgain⟩
  have due : (window.nextAvailable hit.stamp).toInt =
      oldest.toInt + again.quota.unit.length := by
    rw [promised, quota, same]
  have allowed := Window.allowed_track_iff retainsAgain due
  rw [same] at allowed
  refine ⟨oldest, held, _, least, by rw [← quota]; exact promised, ?_, allowed, ?_⟩
  · rw [decode_answerAfter, countsAgain]
    rfl
  · intro noneMore
    apply allowed.2
    have few : (surviving (earlier ++ [hit])).length ≤ hit.quota.value.toNat := by
      apply length_surviving_le
      intro counted member
      rcases List.mem_append.1 member with old | new
      · exact UInt32.le_iff_toNat_le.1 (noneMore counted old)
      · exact Nat.le_of_eq
          (congrArg (fun last => last.quota.value.toNat) (List.mem_singleton.1 new))
    have fewer : ((surviving (earlier ++ [hit])).filter (oldest < ·)).length <
        (surviving (earlier ++ [hit])).length :=
      List.length_filter_lt_length_iff_exists.2
        ⟨oldest, held, by simp [Int64.lt_irrefl]⟩
    omega

/-- The hit that counts against a limit of some number of hits in an hour. -/
def hourlyHit (value : UInt32) (stamp : Int64) : Hit where
  quota := { id := "orders", unit := .hour, value := value }
  method := .get
  stamp := stamp

/--
Two hits are allowed, then the limit is lowered to one.  The next hit is promised
the instant at which the first is an hour old, and is refused at that instant,
because the second has not become too old.
-/
theorem retry_refused_after_lowering :
    let earlier := [hourlyHit 2 1700000000000, hourlyHit 2 1700000000001]
    let hit := hourlyHit 1 1700000000002
    Wire.decode (answerAfter earlier hit) =
        .ok { allowed := false, nextAvailable := 1700003600000, remaining := 0
              : Verdict } ∧
      Wire.decode (answerAfter (earlier ++ [hit])
          { hit with stamp := 1700003600000 }) =
        .ok { allowed := false, nextAvailable := 1700003600001, remaining := 0
              : Verdict } := by
  decide +kernel

/-- The limit is lowered to two while three hits survive, two of them as old. -/
theorem retry_allowed_iff_lowered :
    let earlier := [hourlyHit 3 1700000000000, hourlyHit 3 1700000000000,
      hourlyHit 3 1700000000001]
    let hit := hourlyHit 2 1700000000002
    (∀ counted ∈ earlier ++ [hit], IsSound counted) ∧
      0 < hit.quota.value ∧
      ∃ retry : Verdict,
        Wire.decode (answerAfter (earlier ++ [hit])
            { hit with method := .put, stamp := 1700003600000 }) = .ok retry ∧
          retry.allowed = true := by
  intro earlier hit
  have sound : ∀ counted ∈ earlier ++ [hit], IsSound counted := by
    intro counted member
    simp only [earlier, hit, List.cons_append, List.nil_append, List.mem_cons,
      List.not_mem_nil, or_false] at member
    rcases member with rfl | rfl | rfl | rfl
    all_goals exact ⟨by rw [IsShort]; decide, by decide⟩
  have told : Wire.decode (answerAfter earlier hit) =
      .ok { allowed := false, nextAvailable := 1700003600000, remaining := 0
            : Verdict } := by
    decide +kernel
  have survivors : surviving (earlier ++ [hit]) =
      [1700000000000, 1700000000000, 1700000000001] := by
    decide +kernel
  refine ⟨sound, by decide, ?_⟩
  rcases retry_allowed_iff earlier hit .put sound (by decide) told rfl with
    ⟨oldest, held, retry, least, promised, answered, allowed, _⟩
  refine ⟨retry, answered, allowed.2 ?_⟩
  have first : oldest = 1700000000000 := by
    rw [survivors] at held least
    apply Int64.le_antisymm
    · exact least _ List.mem_cons_self
    · simp only [List.mem_cons, List.not_mem_nil, or_false] at held
      rcases held with rfl | rfl | rfl
      all_goals decide
  rw [survivors, first]
  decide

end QuotaRing.Limit
