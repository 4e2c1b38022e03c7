import QuotaRing.Node.State

/-!
# Regular sweeps

A sweeper runs on a timer of its own, which is independent of the clock by
which entries live.  It sweeps when it starts and then once in every period.
A sweep that comes late moves the following ones; one that is late by no more
than five milliseconds does not count as late.
-/

namespace QuotaRing.Node

/-- The nanoseconds of one millisecond, the resolution of the timer. -/
def nanosPerMilli : Nat := 1000000

/-- The lateness in nanoseconds that is let pass. -/
def slack : Nat := 5 * nanosPerMilli

/-- A timer for sweeps; all its readings are in nanoseconds. -/
structure Sweeper where
  period : Nat
  reading : Nat
  due : Nat
  deriving DecidableEq, Repr

namespace Sweeper

def start (period : Nat) : Sweeper where
  period := period
  reading := 0
  due := 0

/-- Whether a sweep is due, to the resolution of the timer. -/
def isDue (sweeper : Sweeper) : Bool :=
  (sweeper.due + nanosPerMilli - 1) / nanosPerMilli ≤
    sweeper.reading / nanosPerMilli

def swept (sweeper : Sweeper) : Sweeper :=
  let onTime := sweeper.reading ≤ sweeper.due + slack
  { sweeper with
    due := (if onTime then sweeper.due else sweeper.reading) + sweeper.period }

theorem due_le_of_isDue {sweeper : Sweeper} (ready : sweeper.isDue = true) :
    sweeper.due ≤ sweeper.reading := by
  unfold isDue nanosPerMilli at ready
  have ordered := of_decide_eq_true ready
  omega

/-- The sweeper after all sweeps that are due. -/
def caughtUp (sweeper : Sweeper) : Sweeper :=
  if sweeper.isDue ∧ 0 < sweeper.period then caughtUp sweeper.swept
  else sweeper
termination_by sweeper.reading + 1 - sweeper.due
decreasing_by
  rename_i ready
  obtain ⟨isDue, positive⟩ := ready
  have ordered := due_le_of_isDue isDue
  have advances : sweeper.due < sweeper.swept.due := by
    dsimp only [swept]
    split <;> omega
  have same : sweeper.swept.reading = sweeper.reading := rfl
  omega

def advance (sweeper : Sweeper) (nanos : Nat) : Sweeper :=
  { sweeper with reading := sweeper.reading + nanos }

/-- Sweep a node if a sweep is due; its clock reads `now`. -/
def run (sweeper : Sweeper) (now : Int64) (node : Node) : Sweeper × Node :=
  if sweeper.isDue then (sweeper.caughtUp, (node.sweep now).2)
  else (sweeper, node)

/-- Let time pass: the sweeps that are due before and those due after it run. -/
def tick
    (sweeper : Sweeper)
    (nanos : Nat)
    (now : Int64)
    (node : Node) :
    Sweeper × Node :=
  let (sweeper, node) := sweeper.run now node
  (sweeper.advance nanos).run now node

end Sweeper

end QuotaRing.Node
