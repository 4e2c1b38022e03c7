import QuotaRing.Store.Table

/-!
# Looking up entries

A table is told by what it has under each key.  For every operation this
module says what is found afterwards, under the key it works on and under the
others.
-/

namespace QuotaRing.Store

theorem lookup_eq_some_iff
    {entries : List (Key × Entry)}
    (distinct : (entries.map Prod.fst).Nodup)
    (key : Key)
    (entry : Entry) :
    entries.lookup key = some entry ↔ (key, entry) ∈ entries := by
  induction entries with
  | nil => simp
  | cons first rest ih =>
      rcases first with ⟨firstKey, firstEntry⟩
      rw [List.map_cons, List.nodup_cons] at distinct
      rw [List.lookup_cons, List.mem_cons]
      by_cases same : key = firstKey
      · subst same
        have absent : (key, entry) ∉ rest := fun member =>
          distinct.1 (List.mem_map.2 ⟨(key, entry), member, rfl⟩)
        simp [absent, eq_comm]
      · have missed : (key == firstKey) = false := beq_false_of_ne same
        simp only [missed, ih distinct.2, Prod.mk.injEq, same, false_and,
          false_or]

namespace Table

theorem find?_eq_some_iff (table : Table) (key : Key) (entry : Entry) :
    table.find? key = some entry ↔ (key, entry) ∈ table.entries :=
  lookup_eq_some_iff table.distinct key entry

@[simp]
theorem find?_empty (key : Key) : empty.find? key = none :=
  rfl

theorem find?_erase_of_ne
    (table : Table)
    {key other : Key}
    (different : other ≠ key) :
    (table.erase key).find? other = table.find? other := by
  apply Option.ext
  intro entry
  simp [find?_eq_some_iff, erase, different]

theorem find?_insert_of_ne
    (table : Table)
    {key other : Key}
    (entry : Entry)
    (different : other ≠ key) :
    (table.insert key entry).find? other = table.find? other := by
  rw [← table.find?_erase_of_ne different]
  simp [find?, insert, List.lookup_cons, beq_false_of_ne different]

@[simp]
theorem find?_put_self
    (table : Table)
    (now : Int64)
    (key : Key)
    (value : List UInt8)
    (lifetime : Span) :
    (table.put now key value lifetime).find? key =
      some (Entry.written value now lifetime) :=
  table.find?_insert_self key _

theorem find?_put_of_ne
    (table : Table)
    (now : Int64)
    {key other : Key}
    (value : List UInt8)
    (lifetime : Span)
    (different : other ≠ key) :
    (table.put now key value lifetime).find? other = table.find? other :=
  table.find?_insert_of_ne _ different

theorem find?_put
    (table : Table)
    (now : Int64)
    (key : Key)
    (value : List UInt8)
    (lifetime : Span)
    (other : Key) :
    (table.put now key value lifetime).find? other =
      if other = key then some (Entry.written value now lifetime)
      else table.find? other := by
  split
  · next same => rw [same, find?_put_self]
  · next different => exact table.find?_put_of_ne now value lifetime different

theorem find?_erase (table : Table) (key other : Key) :
    (table.erase key).find? other =
      if other = key then none else table.find? other := by
  split
  · next same => rw [same, find?_erase_self]
  · next different => exact table.find?_erase_of_ne different

/-- A sweep takes out exactly the entries that no longer live. -/
theorem find?_sweep (table : Table) (now : Int64) (key : Key) :
    (table.sweep now).2.find? key =
      (table.find? key).filter (·.isLive now) := by
  apply Option.ext
  intro entry
  rw [find?_eq_some_iff, Option.filter_eq_some_iff, find?_eq_some_iff]
  simp [sweep]

/-- What lives under a key depends on the entry under it alone. -/
theorem get?_congr
    {left right : Table}
    {key : Key}
    (same : left.find? key = right.find? key)
    (now : Int64) :
    left.get? now key = right.get? now key := by
  simp only [get?, same]

end Table

end QuotaRing.Store
