import QuotaRing.Limit.TimeUnit
import QuotaRing.Time.Instant

/-!
# Clock readings away from the ends of their range

Sums and differences of a reading and a window length stop at the ends of the
range.  They are exact for readings that are at least one day away from both,
because no window is longer than a day.  The calendar ends before the range of a
clock does, and of the readings that it reaches each is that of its instant.
-/

namespace QuotaRing.Limit

open Saturating (lowest highest)

/-- The milliseconds of a day. -/
def dayMillis : Int := 86400000

/-- A clock reading at least one day away from both ends of its range. -/
structure HasMargin (now : Int64) : Prop where
  above : lowest + dayMillis ≤ now.toInt
  below : now.toInt + dayMillis ≤ highest

instance (now : Int64) : Decidable (HasMargin now) :=
  decidable_of_iff
    (lowest + dayMillis ≤ now.toInt ∧ now.toInt + dayMillis ≤ highest)
    ⟨fun margins => ⟨margins.1, margins.2⟩,
      fun margins => ⟨margins.above, margins.below⟩⟩

/-- The length of a unit in milliseconds as an integer. -/
def TimeUnit.length (unit : TimeUnit) : Int :=
  unit.millis.toInt

theorem TimeUnit.length_pos (unit : TimeUnit) : 0 < unit.length := by
  cases unit <;> decide

theorem TimeUnit.length_le_day (unit : TimeUnit) : unit.length ≤ dayMillis := by
  cases unit <;> decide

namespace HasMargin

theorem toInt_sub
    {now : Int64}
    (margin : HasMargin now)
    (unit : TimeUnit) :
    (Saturating.sub now unit.millis).toInt = now.toInt - unit.length := by
  have short := unit.length_le_day
  have positive := unit.length_pos
  have above := margin.above
  have below := margin.below
  rw [Saturating.toInt_sub]
  simp only [TimeUnit.length] at *
  omega

theorem toInt_add
    {now : Int64}
    (margin : HasMargin now)
    (unit : TimeUnit) :
    (Saturating.add now unit.millis).toInt = now.toInt + unit.length := by
  have short := unit.length_le_day
  have positive := unit.length_pos
  have above := margin.above
  have below := margin.below
  rw [Saturating.toInt_add]
  simp only [TimeUnit.length] at *
  omega

end HasMargin

/-! ## Readings that the calendar reaches -/

/-- A clock reading at least one day away from both ends of the calendar. -/
structure HasCalendarMargin (now : Int64) : Prop where
  above : Instant.firstMillis + dayMillis ≤ now.toInt
  below : now.toInt + dayMillis ≤ Instant.lastMillis

instance (now : Int64) : Decidable (HasCalendarMargin now) :=
  decidable_of_iff
    (Instant.firstMillis + dayMillis ≤ now.toInt ∧
      now.toInt + dayMillis ≤ Instant.lastMillis)
    ⟨fun margins => ⟨margins.1, margins.2⟩,
      fun margins => ⟨margins.above, margins.below⟩⟩

theorem HasCalendarMargin.hasMargin
    {now : Int64}
    (margin : HasCalendarMargin now) :
    HasMargin now where
  above := by
    have earlier : lowest ≤ Instant.firstMillis := by decide
    have above := margin.above
    omega
  below := by
    have later : Instant.lastMillis ≤ highest := by decide
    have below := margin.below
    omega

theorem millis_ofMillis
    {reading : Int64}
    (first : Instant.firstMillis ≤ reading.toInt)
    (last : reading.toInt ≤ Instant.lastMillis) :
    (Instant.ofMillis reading).millis = reading.toInt := by
  rw [Instant.ofMillis, if_pos ⟨first, last⟩, Instant.millis]
  have parts := Int.mul_fdiv_add_fmod reading.toInt 1000
  have positive := Int.fmod_nonneg_of_pos reading.toInt
    (show (0 : Int) < 1000 by decide)
  dsimp only
  omega

end QuotaRing.Limit
