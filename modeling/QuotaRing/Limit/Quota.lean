import QuotaRing.Limit.Method
import QuotaRing.Limit.TimeUnit

/-!
# Quotas, hits and verdicts

A quota allows a number of hits in a sliding window.  A hit carries the quota
it is counted against and the clock reading of the caller who stamped it; the
verdict on it says whether it was allowed and when the next one will be.
-/

namespace QuotaRing.Limit

/-- What decides the accounting of a limit. -/
structure Quota where
  id : String
  unit : TimeUnit
  value : UInt32
  deriving DecidableEq, Repr

/-- One request to be counted. -/
structure Hit where
  quota : Quota
  method : Method
  stamp : Int64
  deriving DecidableEq, Repr

/-- The answer to one hit. -/
structure Verdict where
  allowed : Bool
  nextAvailable : Int64
  remaining : UInt32
  deriving DecidableEq, Repr

/--
The whole seconds a caller should wait at `now` for the next free place: the
time left, rounded up, and one at least.
-/
def retryAfter (nextAvailable now : Int64) : UInt64 :=
  let wait := (Saturating.sub nextAvailable now).toInt.toNat
  UInt64.ofNat (max 1 ((wait + 999) / 1000))

/-- The seconds after which the caller of a hit should try again. -/
def Verdict.retryAfter (verdict : Verdict) (now : Int64) : UInt64 :=
  Limit.retryAfter verdict.nextAvailable now

instance : Wire.Coded Quota where
  encode quota :=
    Wire.encode quota.id ++ Wire.encode quota.unit ++ Wire.encode quota.value
  decodePrefix bytes := do
    let (id, bytes) ← Wire.decodePrefix bytes
    let (unit, bytes) ← Wire.decodePrefix bytes
    let (value, bytes) ← Wire.decodePrefix bytes
    .ok ({ id, unit, value }, bytes)

instance : Wire.Coded Hit where
  encode hit :=
    Wire.encode hit.quota ++ Wire.encode hit.method ++ Wire.encode hit.stamp
  decodePrefix bytes := do
    let (quota, bytes) ← Wire.decodePrefix bytes
    let (method, bytes) ← Wire.decodePrefix bytes
    let (stamp, bytes) ← Wire.decodePrefix bytes
    .ok ({ quota, method, stamp }, bytes)

instance : Wire.Coded Verdict where
  encode verdict :=
    Wire.encode verdict.allowed ++ Wire.encode verdict.nextAvailable ++
      Wire.encode verdict.remaining
  decodePrefix bytes := do
    let (allowed, bytes) ← Wire.decodePrefix bytes
    let (nextAvailable, bytes) ← Wire.decodePrefix bytes
    let (remaining, bytes) ← Wire.decodePrefix bytes
    .ok ({ allowed, nextAvailable, remaining }, bytes)

end QuotaRing.Limit
