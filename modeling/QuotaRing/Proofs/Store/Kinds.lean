import QuotaRing.Proofs.Store.Forms
import QuotaRing.Proofs.Wire.Lengths

/-!
# Counters and windows under one key

What is stored under a key does not tell whether it is a counter or a window, and
both forms start with a number.  In the form of a counter nothing follows that
number; in that of a window it is the length of a name, which more follows.  Main
statement: neither is the form of the other, so a patch of one kind finds nothing
where a value of the other is stored, and bytes that tell of longer texts or
sequences than are there are the form of no window.
-/

namespace QuotaRing.Store

open QuotaRing.Limit (Hit Quota Window)
open QuotaRing.Wire

/-! ## Lengths in the form of a window -/

variable {bytes rest : List UInt8}

/-- Bytes that end before the name they tell of are the form of no window. -/
theorem isNoForm_of_short_name
    {length : Nat}
    (read : decodeNat .eight bytes = .ok (length, rest))
    (short : rest.length < length) :
    IsNoForm Window bytes := by
  apply isNoForm_of_decodePrefix
  rw [decodePrefix_window, decodePrefix_quota]
  simp only [decodePrefix_text_of_short read short, bind, Except.bind]
  rfl

/-- Bytes that end before the hits they tell of are the form of no window. -/
theorem isNoForm_of_short_hits
    {quota : Quota}
    {behind : List UInt8}
    {count : Nat}
    (quoted : decodePrefix bytes = .ok (quota, behind))
    (read : decodeNat .eight behind = .ok (count, rest))
    (short : rest.length < count) :
    IsNoForm Window bytes := by
  rcases exists_decodePrefix_list_of_short (α := Int64) length_lt_of_int64 read
      short with ⟨fault, refused⟩
  apply isNoForm_of_decodePrefix
  rw [decodePrefix_window]
  simp only [quoted, refused, bind, Except.bind]
  rfl

/-! ## The form of a counter -/

/--
A lone number is read as the length of a name that is not there, or as that of the
empty name, behind which the unit is missing.
-/
theorem isNoForm_counter (counter : Int64) :
    IsNoForm Window (encode counter) := by
  by_cases zero : zigzag counter.toInt = 0
  · have form : encode counter = [0] := congrArg encodeNat zero
    rw [form]
    exact ⟨.unexpectedEnd, rfl⟩
  · have number : decodeNat .eight (encode counter) =
        .ok (zigzag counter.toInt, []) := by
      have read := decodeNat_encodeNat (zigzag_lt counter) []
      rw [List.append_nil] at read
      exact read
    exact isNoForm_of_short_name number (Nat.pos_of_ne_zero zero)

/-! ## The form of a window -/

/-- The number that the form of a window starts with does not end it. -/
theorem isNoForm_window (window : Window) : IsNoForm Int64 (encode window) := by
  have parts : ∃ behind, behind ≠ [] ∧
      encode window = encodeNat window.quota.id.utf8ByteSize ++ behind := by
    refine ⟨Text.Utf8.encode window.quota.id ++ (encode window.quota.unit ++
      (encode window.quota.value ++ encode window.hits)), ?_, ?_⟩
    · intro none
      have unit := (List.append_eq_nil_iff.1 (List.append_eq_nil_iff.1 none).2).1
      exact encodeNat_ne_nil _ unit
    · simp only [encode, List.append_assoc]
  rcases parts with ⟨behind, more, form⟩
  rcases exists_decodeNat window.quota.id.utf8ByteSize behind with ⟨read, told⟩
  cases behind with
  | nil => exact absurd rfl more
  | cons first rest =>
      refine ⟨.trailing (first :: rest).length, ?_⟩
      rw [form]
      simp only [decode, decodePrefix, told, bind, Except.bind]

/-! ## Values of the other kind -/

theorem readable?_of_isNoForm
    {α : Type}
    [Coded α]
    {bytes : List UInt8}
    (no : IsNoForm α bytes) :
    (readable? (some bytes) : Option α) = none := by
  rcases no with ⟨fault, refused⟩
  simp only [readable?, Option.bind_some, refused, Except.toOption]

theorem apply_increment_of_isNoForm
    {bytes : List UInt8}
    (no : IsNoForm Int64 bytes)
    (delta : Int64) :
    (Patch.increment delta).apply (some bytes) =
      (Patch.increment delta).apply none := by
  rw [Patch.apply, Patch.apply, incremented, incremented, readable?_of_isNoForm no]
  rfl

theorem apply_trackHit_of_isNoForm
    {bytes : List UInt8}
    (no : IsNoForm Window bytes)
    (hit : Hit) :
    (Patch.trackHit hit).apply (some bytes) =
      (Patch.trackHit hit).apply none := by
  rw [Patch.apply, Patch.apply, readable?_of_isNoForm no]
  rfl

/-! ## Both kinds -/

/--
The form of a counter is that of no window and the form of a window that of no
counter.  So a patch of one kind does on a value of the other what it does where
nothing is stored.  A length that tells of more than is left, of the name or of
the hits, makes bytes the form of no window.
-/
theorem counters_and_windows_are_apart :
    (∀ (counter : Int64) (window : Window),
      IsNoForm Window (encode counter) ∧ IsNoForm Int64 (encode window)) ∧
      (∀ (window : Window) (delta : Int64),
        (Patch.increment delta).apply (some (encode window)) =
          (Patch.increment delta).apply none) ∧
      (∀ (counter : Int64) (hit : Hit),
        (Patch.trackHit hit).apply (some (encode counter)) =
          (Patch.trackHit hit).apply none) ∧
      (∀ bytes rest length,
        decodeNat .eight bytes = .ok (length, rest) → rest.length < length →
          IsNoForm Window bytes) ∧
      ∀ bytes (quota : Quota) behind rest count,
        decodePrefix bytes = .ok (quota, behind) →
          decodeNat .eight behind = .ok (count, rest) → rest.length < count →
            IsNoForm Window bytes := by
  refine ⟨?_, ?_, ?_, ?_, ?_⟩
  · intro counter window
    exact ⟨isNoForm_counter counter, isNoForm_window window⟩
  · intro window delta
    exact apply_increment_of_isNoForm (isNoForm_window window) delta
  · intro counter hit
    exact apply_trackHit_of_isNoForm (isNoForm_counter counter) hit
  · intro bytes rest length read short
    exact isNoForm_of_short_name read short
  · intro bytes quota behind rest count quoted read short
    exact isNoForm_of_short_hits quoted read short

/--
The least window meets a counter whose form is longest.  Then bytes tell of a name
of three bytes and of two hits, of which only the first is there.
-/
theorem counters_and_windows_are_apart_short :
    let quota : Quota := { id := "", unit := .second, value := 0 }
    let window : Window := { quota, hits := [] }
    let hit : Hit := { quota, method := .any, stamp := 0 }
    (IsNoForm Window (encode Int64.minValue) ∧ IsNoForm Int64 (encode window)) ∧
      (Patch.increment (-1)).apply (some (encode window)) =
        (Patch.increment (-1)).apply none ∧
      (Patch.trackHit hit).apply (some (encode Int64.minValue)) =
        (Patch.trackHit hit).apply none ∧
      decodeNat .eight [3, 97] = .ok (3, [97]) ∧
      IsNoForm Window [3, 97] ∧
      decodePrefix [1, 97, 0, 5, 2, 8] =
        (.ok ({ id := "a", unit := .second, value := 5 }, [2, 8]) :
          Except DecodeError (Quota × List UInt8)) ∧
      IsNoForm Window [1, 97, 0, 5, 2, 8] := by
  intro quota window hit
  have named : decodeNat .eight [3, 97] = .ok (3, [97]) := rfl
  have quoted : decodePrefix [1, 97, 0, 5, 2, 8] =
      (.ok ({ id := "a", unit := .second, value := 5 }, [2, 8]) :
        Except DecodeError (Quota × List UInt8)) := by
    rfl
  rcases counters_and_windows_are_apart with
    ⟨apart, incremented, tracked, ofName, ofHits⟩
  exact ⟨apart Int64.minValue window, incremented window (-1),
    tracked Int64.minValue hit, named, ofName _ _ _ named (by decide), quoted,
    ofHits _ _ _ [8] 2 quoted rfl (by decide)⟩

end QuotaRing.Store
