/-!
# Checks in sequence

What is known when a sequence of checks, each of which may fail, has come to
its end.
-/

namespace QuotaRing.Checks

variable {ε α β : Type}

theorem bind_eq_ok
    {first : Except ε α}
    {rest : α → Except ε β}
    {result : β}
    (passed : first >>= rest = .ok result) :
    ∃ value, first = .ok value ∧ rest value = .ok result := by
  cases first with
  | error fault => cases passed
  | ok value => exact ⟨value, rfl, passed⟩

/-- Every result of a check of all values is the result for one of them. -/
theorem mem_of_mapM
    {check : α → Except ε β}
    {values : List α}
    {results : List β}
    (passed : values.mapM check = .ok results) :
    ∀ result ∈ results, ∃ value ∈ values, check value = .ok result := by
  induction values generalizing results with
  | nil =>
      cases passed
      intro result member
      cases member
  | cons first rest ih =>
      rw [List.mapM_cons] at passed
      rcases bind_eq_ok passed with ⟨head, checked, passed⟩
      rcases bind_eq_ok passed with ⟨tail, others, same⟩
      cases same
      intro result member
      rcases List.mem_cons.1 member with rfl | later
      · exact ⟨first, List.mem_cons_self, checked⟩
      · rcases ih others result later with ⟨value, held, found⟩
        exact ⟨value, List.mem_cons_of_mem first held, found⟩

/-- If what passes has a known result, so has a check of all values. -/
theorem eq_map_of_mapM
    {check : α → Except ε β}
    {result : α → β}
    (known : ∀ value other, check value = .ok other → other = result value)
    {values : List α}
    {results : List β}
    (passed : values.mapM check = .ok results) :
    results = values.map result := by
  induction values generalizing results with
  | nil =>
      cases passed
      rfl
  | cons first rest ih =>
      rw [List.mapM_cons] at passed
      rcases bind_eq_ok passed with ⟨head, checked, passed⟩
      rcases bind_eq_ok passed with ⟨tail, others, same⟩
      cases same
      rw [known first head checked, ih others]
      rfl

/-- If every value passes, all results are known. -/
theorem mapM_eq_ok
    {check : α → Except ε β}
    {result : α → β}
    {values : List α}
    (passes : ∀ value ∈ values, check value = .ok (result value)) :
    values.mapM check = .ok (values.map result) := by
  induction values with
  | nil => rfl
  | cons first rest ih =>
      rw [List.mapM_cons, passes first List.mem_cons_self,
        ih fun value member => passes value (List.mem_cons_of_mem first member)]
      rfl

end QuotaRing.Checks
