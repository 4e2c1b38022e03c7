import QuotaRing.Arith.Bisect

/-!
# What bisection finds

If a condition never succeeds after it has failed, bisection finds the end of
the indices at which it holds.
-/

namespace QuotaRing

/-- Bisection finds no place beyond the end. -/
theorem bisect_le_end (holds : Nat → Bool) (base size : Nat) :
    bisect holds base size ≤ base + size := by
  fun_induction bisect holds base size with
  | case1 base size large half next ih =>
      have most : half < size := by omega
      have moved : next ≤ base + half := by
        dsimp only [next]
        split <;> omega
      omega
  | case2 base size small single => omega
  | case3 base size small none => omega

/-- A condition on the indices below a bound that never succeeds again. -/
def FailsForGood (holds : Nat → Bool) (bound : Nat) : Prop :=
  ∀ earlier later, earlier ≤ later → later < bound →
    holds later = true → holds earlier = true

/-- The place that bisection finds divides those that hold from those that fail. -/
structure Divides (holds : Nat → Bool) (base size place : Nat) : Prop where
  base_le : base ≤ place
  le_end : place ≤ base + size
  before : ∀ index, base ≤ index → index < place → holds index = true
  after : ∀ index, place ≤ index → index < base + size → holds index = false

theorem divides_bisect
    {holds : Nat → Bool}
    {base size : Nat}
    (forGood : FailsForGood holds (base + size)) :
    Divides holds base size (bisect holds base size) := by
  fun_induction bisect holds base size with
  | case1 base size large half next ih =>
      have least : 1 ≤ half := by omega
      have most : half < size := by omega
      by_cases middle : holds (base + half) = true
      · have moved : next = base + half := if_pos middle
        rw [moved] at ih ⊢
        have same : base + half + (size - half) = base + size := by omega
        have found := ih (same ▸ forGood)
        refine ⟨by have := found.base_le; omega, same ▸ found.le_end, ?_,
          same ▸ found.after⟩
        intro index least below
        by_cases inside : base + half ≤ index
        · exact found.before index inside below
        · exact forGood index (base + half) (by omega) (by omega) middle
      · have stayed : next = base := if_neg middle
        rw [stayed] at ih ⊢
        have found := ih fun earlier later ordered below =>
          forGood earlier later ordered (by omega)
        refine ⟨found.base_le, by have := found.le_end; omega, found.before, ?_⟩
        intro index least below
        by_cases inside : index < base + (size - half)
        · exact found.after index least inside
        · -- beyond the half that is kept the condition fails with its middle
          apply Bool.eq_false_iff.2
          intro holding
          exact middle
            (forGood (base + half) index (by omega) below holding)
  | case2 base size small single =>
      rcases single with ⟨one, first⟩
      subst one
      refine ⟨by omega, by omega, ?_, by omega⟩
      intro index least below
      rw [show index = base by omega]
      exact first
  | case3 base size small none =>
      refine ⟨by omega, by omega, by omega, ?_⟩
      intro index least below
      have one : size = 1 := by omega
      rw [show index = base by omega]
      simpa [one] using none

end QuotaRing
