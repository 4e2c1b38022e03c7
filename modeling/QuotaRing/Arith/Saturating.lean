/-!
# Saturating arithmetic on 64-bit signed numbers

Instants and counters are 64-bit signed numbers whose sums stop at the two
ends of the range instead of wrapping.  Every operation is the exact one on
integers followed by `saturate`, so a statement about it is a statement about
`toInt` and two bounds.
-/

namespace QuotaRing.Saturating

/-- The least value of the range, as an integer. -/
def lowest : Int := -0x8000000000000000

/-- The greatest value of the range, as an integer. -/
def highest : Int := 0x7fffffffffffffff

/-- The value of the range that is nearest to an integer. -/
def saturate (exact : Int) : Int64 :=
  Int64.ofInt (max lowest (min highest exact))

theorem toInt_saturate (exact : Int) :
    (saturate exact).toInt = max lowest (min highest exact) := by
  unfold saturate
  apply Int64.toInt_ofInt_of_le <;> simp only [lowest, highest] <;> omega

theorem toInt_saturate_of_mem
    {exact : Int}
    (above : lowest ≤ exact)
    (below : exact ≤ highest) :
    (saturate exact).toInt = exact := by
  rw [toInt_saturate]
  omega

/-- The sum of two numbers, stopped at the ends of the range. -/
def add (left right : Int64) : Int64 :=
  saturate (left.toInt + right.toInt)

/-- The difference of two numbers, stopped at the ends of the range. -/
def sub (left right : Int64) : Int64 :=
  saturate (left.toInt - right.toInt)

theorem toInt_add (left right : Int64) :
    (add left right).toInt =
      max lowest (min highest (left.toInt + right.toInt)) :=
  toInt_saturate _

theorem toInt_sub (left right : Int64) :
    (sub left right).toInt =
      max lowest (min highest (left.toInt - right.toInt)) :=
  toInt_saturate _

end QuotaRing.Saturating
