import QuotaRing.Arith.Bisect
import QuotaRing.Limit.Quota

/-!
# Sliding windows

A window holds the stamps of the allowed hits of the last window length,
oldest first.  A hit is allowed while the window has room; a full window has
room again when its oldest hit is one window length old.
-/

namespace QuotaRing.Limit

/-- The counted hits of one subject against one quota. -/
structure Window where
  quota : Quota
  hits : List Int64
  deriving DecidableEq, Repr

namespace Window

def fresh (quota : Quota) : Window where
  quota := quota
  hits := []

def length (window : Window) : Int64 :=
  window.quota.unit.millis

/-- The last stamp that is too old at `now`. -/
def cutoff (window : Window) (now : Int64) : Int64 :=
  Saturating.sub now window.length

/-- The window as it stands at `now`: without the oldest hits that are too old. -/
def viewAt (window : Window) (now : Int64) : Window :=
  { window with hits := window.hits.dropWhile (· ≤ window.cutoff now) }

/-- The number of hits for which there is room. -/
def remaining (window : Window) : Nat :=
  window.quota.value.toNat - window.hits.length

/-- When a hit is next allowed, if no hit of the window is too old at `now`. -/
def nextAvailable (window : Window) (now : Int64) : Int64 :=
  if 0 < window.remaining then now
  else Saturating.add (window.hits.headD now) window.length

/-- The place of a stamp among the hits, behind those that are not later. -/
def place (window : Window) (stamp : Int64) : Nat :=
  bisect
    (fun index => (window.hits[index]?.getD stamp) ≤ stamp)
    0
    window.hits.length

def record (window : Window) (stamp : Int64) : Window :=
  { window with
    hits := window.hits.insertIdx (window.place stamp) stamp }

/-- The verdict that reports the state of a window at `now`. -/
def verdict (window : Window) (allowed : Bool) (now : Int64) : Verdict where
  allowed := allowed
  nextAvailable := window.nextAvailable now
  remaining := UInt32.ofNat window.remaining

/-- Count one hit at `now`: the window afterwards and the verdict. -/
def track (window : Window) (now : Int64) : Window × Verdict :=
  let current := window.viewAt now
  if 0 < current.remaining then
    let counted := current.record now
    (counted, counted.verdict true now)
  else
    (current, current.verdict false now)

/--
Count a hit against the stored window, if there is one.  The quota in force is
the one the hit carries.
-/
def countHit (hit : Hit) (stored? : Option Window) : Window × Verdict :=
  let window := stored?.getD (fresh hit.quota)
  { window with quota := hit.quota }.track hit.stamp

instance : Wire.Coded Window where
  encode window := Wire.encode window.quota ++ Wire.encode window.hits
  decodePrefix bytes := do
    let (quota, bytes) ← Wire.decodePrefix bytes
    let (hits, bytes) ← Wire.decodePrefix bytes
    .ok ({ quota, hits }, bytes)

end Window

end QuotaRing.Limit
