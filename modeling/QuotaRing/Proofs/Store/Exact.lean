import QuotaRing.Proofs.Store.Forms
import QuotaRing.Proofs.Wire.Steady

/-!
# Exact forms of what is stored and sent

Counters, windows, verdicts and patches are all that is put in a store or sent
between peers in binary form.  Main statement: each of them reads back from its
form, bytes behind the form are refused and counted, and a form that is cut
short anywhere is refused for its end.
-/

namespace QuotaRing.Store

open QuotaRing.Limit (Hit Method Quota TimeUnit Verdict Window)
open QuotaRing.Wire

/-! ## Readers of records -/

theorem isSteady_method : IsSteady (decodePrefix : Decoder Method) :=
  isSteady_decodeIndex Method.all

theorem isSteady_timeUnit : IsSteady (decodePrefix : Decoder TimeUnit) :=
  isSteady_decodeIndex TimeUnit.all

theorem isSteady_quota : IsSteady (decodePrefix : Decoder Quota) :=
  isSteady_string.andThen fun id =>
    isSteady_timeUnit.andThen fun unit =>
      isSteady_uint32.andThen fun value => isSteady_ok (Quota.mk id unit value)

theorem isSteady_hit : IsSteady (decodePrefix : Decoder Hit) :=
  isSteady_quota.andThen fun quota =>
    isSteady_method.andThen fun method =>
      isSteady_int64.andThen fun stamp => isSteady_ok (Hit.mk quota method stamp)

theorem isSteady_verdict : IsSteady (decodePrefix : Decoder Verdict) :=
  isSteady_bool.andThen fun allowed =>
    isSteady_int64.andThen fun nextAvailable =>
      isSteady_uint32.andThen fun remaining =>
        isSteady_ok (Verdict.mk allowed nextAvailable remaining)

theorem isSteady_window : IsSteady (decodePrefix : Decoder Window) :=
  isSteady_quota.andThen fun quota =>
    (isSteady_list isSteady_int64).andThen fun hits =>
      isSteady_ok (Window.mk quota hits)

/-- A patch is read by the number of its variant, which is one of two. -/
theorem isSteady_patch : IsSteady (decodePrefix : Decoder Patch) := by
  refine (isSteady_decodeNat .four).andThen fun variant => ?_
  cases variant with
  | zero =>
      exact isSteady_int64.andThen fun delta => isSteady_ok (Patch.increment delta)
  | succ variant =>
      cases variant with
      | zero => exact isSteady_hit.andThen fun hit => isSteady_ok (Patch.trackHit hit)
      | succ _ => exact isSteady_error .invalidVariant

/-! ## Exact forms -/

/--
Whether the lengths in the form of a window can be written, as the length of all
that fits in memory can.
-/
def IsWritable (window : Window) : Prop :=
  IsShort window.quota ∧ window.hits.length < capacity Width.eight.bytes

/--
Every counter and verdict, and every patch and window whose lengths can be
written in eight bytes, reads back from its form; the form with bytes behind it
is refused for their number, and each proper start of it for its end.
-/
theorem forms_are_exact :
    (∀ counter : Int64, IsExact counter) ∧
      (∀ verdict : Verdict, IsExact verdict) ∧
      (∀ patch : Patch, patch.IsShort → IsExact patch) ∧
      ∀ window : Window, IsWritable window → IsExact window := by
  refine ⟨?_, ?_, ?_, ?_⟩
  · intro counter
    exact (reads_int64 counter).isExact isSteady_int64
  · intro verdict
    exact (reads_verdict verdict).isExact isSteady_verdict
  · intro patch short
    exact (reads_patch short).isExact isSteady_patch
  · rintro window ⟨short, few⟩
    exact (reads_window short few).isExact isSteady_window

/-- A window with hits on both sides of where numbers need more bytes. -/
theorem forms_are_exact_wide :
    let quota : Quota := { id := "täglich", unit := .day, value := 251 }
    let window : Window :=
      { quota, hits := [-0x8000000000000000, -126, 125, 32767, 32768] }
    let patch : Patch := .trackHit { quota, method := .any, stamp := -126 }
    IsWritable window ∧ patch.IsShort ∧
      (decode (encode window) : Except DecodeError Window) = .ok window ∧
      (decode (encode window ++ [0, 0]) : Except DecodeError Window) =
        .error (.trailing 2) ∧
      (decode (encode patch).dropLast : Except DecodeError Patch) =
        .error .unexpectedEnd := by
  intro quota window patch
  have short : IsShort quota := by
    rw [IsShort]
    decide
  have writable : IsWritable window := ⟨short, by decide⟩
  have exact_window := forms_are_exact.2.2.2 window writable
  have exact_patch := forms_are_exact.2.2.1 patch short
  refine ⟨writable, short, exact_window.whole, exact_window.longer [0, 0] nofun, ?_⟩
  apply exact_patch.shorter _ (List.dropLast_prefix _)
  intro same
  have length := congrArg List.length same
  rw [List.length_dropLast] at length
  have positive : 0 < (encode patch).length := by decide
  omega

end QuotaRing.Store
