import QuotaRing.Proofs.Wire.RoundTrip
import QuotaRing.Store.Patch

/-!
# The forms of windows, verdicts and patches

Verdicts read back without condition.  Quotas, hits, windows and patches read
back if the text and the sequence they contain are short enough for their
lengths to be written, which every stored value is.
-/

namespace QuotaRing.Store

open QuotaRing.Limit (Hit Quota Verdict Window)
open QuotaRing.Wire

/-- Whether the length of the name of a quota can be written. -/
def IsShort (quota : Quota) : Prop :=
  quota.id.utf8ByteSize < capacity Width.eight.bytes

/-! ## Records, field by field -/

theorem decodePrefix_quota (bytes : List UInt8) :
    (decodePrefix bytes : Except DecodeError (Quota × List UInt8)) = (do
      let (id, bytes) ← decodePrefix bytes
      let (unit, bytes) ← decodePrefix bytes
      let (value, bytes) ← decodePrefix bytes
      .ok ({ id, unit, value }, bytes)) :=
  rfl

theorem decodePrefix_hit (bytes : List UInt8) :
    (decodePrefix bytes : Except DecodeError (Hit × List UInt8)) = (do
      let (quota, bytes) ← decodePrefix bytes
      let (method, bytes) ← decodePrefix bytes
      let (stamp, bytes) ← decodePrefix bytes
      .ok ({ quota, method, stamp }, bytes)) :=
  rfl

theorem decodePrefix_verdict (bytes : List UInt8) :
    (decodePrefix bytes : Except DecodeError (Verdict × List UInt8)) = (do
      let (allowed, bytes) ← decodePrefix bytes
      let (nextAvailable, bytes) ← decodePrefix bytes
      let (remaining, bytes) ← decodePrefix bytes
      .ok ({ allowed, nextAvailable, remaining }, bytes)) :=
  rfl

theorem decodePrefix_window (bytes : List UInt8) :
    (decodePrefix bytes : Except DecodeError (Window × List UInt8)) = (do
      let (quota, bytes) ← decodePrefix bytes
      let (hits, bytes) ← decodePrefix bytes
      .ok ({ quota, hits }, bytes)) :=
  rfl

theorem reads_quota {quota : Quota} (short : IsShort quota) : Reads quota := by
  intro rest
  have parts : encode quota =
      encode quota.id ++ encode quota.unit ++ encode quota.value := rfl
  rw [parts, decodePrefix_quota]
  simp only [List.append_assoc, reads_string short _,
    reads_timeUnit quota.unit _, reads_uint32 quota.value _, bind, Except.bind]

theorem reads_hit {hit : Hit} (short : IsShort hit.quota) : Reads hit := by
  intro rest
  have parts : encode hit =
      encode hit.quota ++ encode hit.method ++ encode hit.stamp := rfl
  rw [parts, decodePrefix_hit]
  simp only [List.append_assoc, reads_quota short _, reads_method hit.method _,
    reads_int64 hit.stamp _, bind, Except.bind]

theorem reads_verdict (verdict : Verdict) : Reads verdict := by
  intro rest
  have parts : encode verdict =
      encode verdict.allowed ++ encode verdict.nextAvailable ++
        encode verdict.remaining := rfl
  rw [parts, decodePrefix_verdict]
  simp only [List.append_assoc, reads_bool verdict.allowed _,
    reads_int64 verdict.nextAvailable _, reads_uint32 verdict.remaining _, bind,
    Except.bind]

theorem reads_window
    {window : Window}
    (short : IsShort window.quota)
    (few : window.hits.length < capacity Width.eight.bytes) :
    Reads window := by
  intro rest
  have hits : Reads window.hits :=
    reads_list few fun stamp _ => reads_int64 stamp
  have parts : encode window = encode window.quota ++ encode window.hits := rfl
  rw [parts, decodePrefix_window]
  simp only [List.append_assoc, reads_quota short _, hits _, bind, Except.bind]

/-! ## Patches -/

/-- Whether the lengths in the form of a patch can be written. -/
def Patch.IsShort : Patch → Prop
  | .increment _ => True
  | .trackHit hit => Store.IsShort hit.quota

theorem encode_increment (delta : Int64) :
    encode (Patch.increment delta) = encodeNat 0 ++ encode delta :=
  rfl

theorem encode_trackHit (hit : Hit) :
    encode (Patch.trackHit hit) = encodeNat 1 ++ encode hit :=
  rfl

/-- A patch is read by the number of its variant. -/
theorem decodePrefix_patch (bytes : List UInt8) :
    (decodePrefix bytes : Except DecodeError (Patch × List UInt8)) = (do
      let (variant, bytes) ← decodeNat .four bytes
      match variant with
      | 0 => do
          let (delta, bytes) ← decodePrefix bytes
          .ok (Patch.increment delta, bytes)
      | 1 => do
          let (hit, bytes) ← decodePrefix bytes
          .ok (Patch.trackHit hit, bytes)
      | _ => .error .invalidVariant) :=
  rfl

theorem reads_patch {patch : Patch} (short : patch.IsShort) : Reads patch := by
  intro rest
  cases patch with
  | increment delta =>
      have numbered : decodeNat .four (encodeNat 0 ++ (encode delta ++ rest)) =
          .ok (0, encode delta ++ rest) := decodeNat_encodeNat (by decide) _
      rw [encode_increment, List.append_assoc, decodePrefix_patch, numbered]
      simp only [bind, Except.bind, reads_int64 delta rest]
  | trackHit hit =>
      have numbered : decodeNat .four (encodeNat 1 ++ (encode hit ++ rest)) =
          .ok (1, encode hit ++ rest) := decodeNat_encodeNat (by decide) _
      rw [encode_trackHit, List.append_assoc, decodePrefix_patch, numbered]
      simp only [bind, Except.bind, reads_hit short rest]

/-- A readable value is the one that was written. -/
theorem readable?_encode
    {α : Type}
    [Coded α]
    {value : α}
    (reads : Reads value) :
    readable? (some (encode value)) = some value := by
  simp [readable?, reads.decode, Except.toOption]

end QuotaRing.Store
