/-!
# Bisection

The place behind the indices at which a condition holds, where those come
first, found by halving the interval.
-/

namespace QuotaRing

/--
The first index from `base` on, among `size` of them, at which `holds` fails,
if `holds` never succeeds after it has failed.
-/
def bisect (holds : Nat → Bool) (base size : Nat) : Nat :=
  if 1 < size then
    let half := size / 2
    let base := if holds (base + half) then base + half else base
    bisect holds base (size - half)
  else if size = 1 ∧ holds base then
    base + 1
  else
    base
termination_by size

end QuotaRing
