import QuotaRing.Proofs.Limit.Sliding

/-!
# Stamps that come out of order

Callers stamp hits by clocks of their own, so a stamp may be earlier than hits
that have been recorded.  In a window whose hits are in order it is put behind
those that are not later and before the others.  Main statements: in whatever
order stamps come, a hit is allowed exactly if the hits above its cutoff leave
room, and then recorded as one hit more.
-/

namespace QuotaRing.Limit

theorem insertIdx_length_append
    {α : Type}
    (before after : List α)
    (value : α) :
    (before ++ after).insertIdx before.length value =
      before ++ value :: after := by
  induction before with
  | nil => rfl
  | cons first rest ih =>
      rw [List.cons_append, List.length_cons, List.insertIdx_succ_cons, ih,
        List.cons_append]

namespace Window

/-- A stamp that is recorded is one hit more, and no other changes. -/
theorem record_perm (window : Window) (stamp : Int64) :
    (window.record stamp).hits.Perm (stamp :: window.hits) := by
  have inside : window.place stamp ≤ 0 + window.hits.length :=
    bisect_le_end _ _ _
  rw [Nat.zero_add] at inside
  exact List.perm_insertIdx stamp window.hits inside

variable
    {window : Window}
    (sorted : window.hits.Pairwise (· ≤ ·))
    (stamp : Int64)

include sorted

/-- The place of a stamp divides the hits that are not later from the others. -/
theorem divides_place :
    Divides
      (fun index => decide ((window.hits[index]?.getD stamp) ≤ stamp))
      0 window.hits.length (window.place stamp) := by
  apply divides_bisect
  intro earlier later ordered below holds
  have inside : later < window.hits.length := by omega
  rw [decide_eq_true_iff, List.getElem?_eq_getElem inside,
    Option.getD_some] at holds
  rw [decide_eq_true_iff,
    List.getElem?_eq_getElem (Nat.lt_of_le_of_lt ordered inside),
    Option.getD_some]
  rcases Nat.lt_or_eq_of_le ordered with before | same
  · exact Int64.le_trans
      (List.pairwise_iff_getElem.1 sorted earlier later _ inside before) holds
  · subst same
    exact holds

/-- The hits before the place of a stamp are not later, those behind it are. -/
theorem exists_parts :
    ∃ before after,
      window.hits = before ++ after ∧
      window.place stamp = before.length ∧
      (∀ hit ∈ before, hit ≤ stamp) ∧
      ∀ hit ∈ after, stamp < hit := by
  have divides := divides_place sorted stamp
  have inside : window.place stamp ≤ window.hits.length := by
    have := divides.le_end
    omega
  refine ⟨window.hits.take (window.place stamp),
    window.hits.drop (window.place stamp),
    (List.take_append_drop _ _).symm, (List.length_take_of_le inside).symm,
    ?_, ?_⟩
  · intro hit member
    rcases List.mem_take_iff_getElem.1 member with ⟨index, below, rfl⟩
    have holds := divides.before index (Nat.zero_le index) (by omega)
    rw [decide_eq_true_iff, List.getElem?_eq_getElem (by omega),
      Option.getD_some] at holds
    exact holds
  · intro hit member
    rcases List.mem_drop_iff_getElem.1 member with ⟨index, below, rfl⟩
    have fails := divides.after (window.place stamp + index) (by omega) (by omega)
    rw [decide_eq_false_iff_not, List.getElem?_eq_getElem (by omega),
      Option.getD_some] at fails
    exact Int64.not_le.1 fails

theorem sorted_record : (window.record stamp).hits.Pairwise (· ≤ ·) := by
  rcases exists_parts sorted stamp with ⟨before, after, hits, place, early, late⟩
  rw [hits, List.pairwise_append] at sorted
  rw [record, place, hits, insertIdx_length_append, List.pairwise_append,
    List.pairwise_cons]
  refine ⟨sorted.1, ⟨fun hit member => Int64.le_of_lt (late hit member),
    sorted.2.1⟩, ?_⟩
  intro hit member other behind
  rcases List.mem_cons.1 behind with rfl | later
  · exact early hit member
  · exact sorted.2.2 hit member other later

omit sorted

/-- The hits that a stamp leaves in a window, above its cutoff. -/
def kept (window : Window) (stamp : Int64) : List Int64 :=
  window.hits.filter (window.cutoff stamp < ·)

theorem sorted_kept
    (sorted : window.hits.Pairwise (· ≤ ·)) :
    (window.kept stamp).Pairwise (· ≤ ·) :=
  sorted.filter _

theorem viewAt_eq_kept
    (sorted : window.hits.Pairwise (· ≤ ·)) :
    window.viewAt stamp = { window with hits := window.kept stamp } :=
  congrArg (fun hits => { window with hits := hits })
    (dropWhile_le_eq_filter sorted (window.cutoff stamp))

/-- A hit is allowed and recorded if the hits above its cutoff leave room. -/
theorem track_of_room
    (sorted : window.hits.Pairwise (· ≤ ·))
    (room : (window.kept stamp).length < window.quota.value.toNat) :
    ∃ hits : List Int64,
      hits.Perm (stamp :: window.kept stamp) ∧
      hits.Pairwise (· ≤ ·) ∧
      window.track stamp =
        ({ window with hits := hits },
          verdict { window with hits := hits } true stamp) := by
  have left : 0 < remaining { window with hits := window.kept stamp } :=
    Nat.sub_pos_of_lt room
  have ordered : ({ window with hits := window.kept stamp } : Window).hits.Pairwise
      (· ≤ ·) := sorted_kept stamp sorted
  refine ⟨_, record_perm _ stamp, sorted_record ordered stamp, ?_⟩
  rw [track]
  simp only [viewAt_eq_kept stamp sorted, if_pos left]
  rfl

/-- A hit is refused if they do not, and only what is too old is forgotten. -/
theorem track_of_full
    (sorted : window.hits.Pairwise (· ≤ ·))
    (full : ¬ (window.kept stamp).length < window.quota.value.toNat) :
    window.track stamp =
      ({ window with hits := window.kept stamp },
        verdict { window with hits := window.kept stamp } false stamp) := by
  have none : ¬ 0 < remaining { window with hits := window.kept stamp } := by
    rw [remaining, Nat.sub_pos_iff_lt]
    exact full
  rw [track]
  simp only [viewAt_eq_kept stamp sorted, if_neg none]

end Window

end QuotaRing.Limit
