import QuotaRing.Limit.Window

/-!
# Patches of stored values

A patch computes a new value from the live value under a key, and an answer
for its caller.  A value that is not of the kind a patch works on counts as
absent.
-/

namespace QuotaRing.Store

open QuotaRing.Limit (Hit Verdict Window)

/-- A change that is computed where the value is stored. -/
inductive Patch where
  /-- Add to a counter, which starts from zero. -/
  | increment (delta : Int64)
  /-- Count a hit in a sliding window. -/
  | trackHit (hit : Hit)
  deriving DecidableEq, Repr

/-- What a patch leaves in the store and what it tells its caller. -/
structure Patched where
  value : List UInt8
  result : List UInt8
  deriving DecidableEq, Repr

/-- The value of the wanted kind that stored bytes hold. -/
def readable? {α : Type} [Wire.Coded α] (stored? : Option (List UInt8)) : Option α :=
  stored?.bind fun bytes => (Wire.decode bytes).toOption

/-- The counter after an increment of the stored one. -/
def incremented (delta : Int64) (stored? : Option (List UInt8)) : Int64 :=
  Saturating.add ((readable? stored?).getD 0) delta

namespace Patch

/-- Apply a patch to the live value under a key. -/
def apply (patch : Patch) (live? : Option (List UInt8)) : Patched :=
  match patch with
  | increment delta =>
      let counter := Wire.encode (incremented delta live?)
      { value := counter, result := counter }
  | trackHit hit =>
      let (window, verdict) := Window.countHit hit (readable? live?)
      { value := Wire.encode window, result := Wire.encode verdict }

instance : Wire.Coded Patch where
  encode
    | increment delta => Wire.encodeNat 0 ++ Wire.encode delta
    | trackHit hit => Wire.encodeNat 1 ++ Wire.encode hit
  decodePrefix bytes := do
    let (variant, bytes) ← Wire.decodeNat .four bytes
    match variant with
    | 0 => do
        let (delta, bytes) ← Wire.decodePrefix bytes
        .ok (increment delta, bytes)
    | 1 => do
        let (hit, bytes) ← Wire.decodePrefix bytes
        .ok (trackHit hit, bytes)
    | _ => .error .invalidVariant

end Patch

end QuotaRing.Store
