import QuotaRing.Proofs.Run
import QuotaRing.Proofs.Store.Lookup

/-!
# Uses of a table

What the owner of a table, and whoever asks it, can do with the table, so that
runs of a table are runs of its uses.  A use changes what is stored under the
one key it writes, if it writes any; a sweep takes out what no longer lives,
which no reader could see; and reading changes nothing.
-/

namespace QuotaRing.Store

/-- What can be done with a table. -/
inductive Use where
  | get (key : Key)
  | put (key : Key) (value : List UInt8) (lifetime : Span)
  | patch (key : Key) (change : Patch) (lifetime : Span)
  | remove (key : Key)
  | sweep

/-- What is told to whoever uses a table. -/
inductive Reply where
  | value (value? : Option (List UInt8))
  | stored
  | patched (result : List UInt8)
  /-- Whether a live value was removed. -/
  | removed (wasLive : Bool)
  /-- The number of entries that were taken out. -/
  | swept (count : Nat)

/-- Use a table whose clock reads `now`. -/
def Table.use (now : Int64) : Use → StateM Table Reply
  | .get key => fun table => (.value (table.get? now key), table)
  | .put key value lifetime => fun table =>
      (.stored, table.put now key value lifetime)
  | .patch key change lifetime => fun table =>
      (table.patch now key change lifetime).map .patched id
  | .remove key => fun table => (table.remove now key).map .removed id
  | .sweep => fun table => (table.sweep now).map .swept id

/-- The key under which a use may write. -/
def Use.written? : Use → Option Key
  | .get _ => none
  | .put key _ _ => some key
  | .patch key _ _ => some key
  | .remove key => some key
  | .sweep => none

/--
A use that does not write under a key leaves the entry there, or sweeps it away
when it no longer lives.
-/
theorem Table.find?_use
    {key : Key}
    (now : Int64)
    {use : Use}
    (elsewhere : use.written? ≠ some key)
    (table : Table) :
    (table.use now use).2.find? key = table.find? key ∨
      (table.use now use).2.find? key =
        (table.find? key).filter (·.isLive now) := by
  have other : ∀ {written : Key}, some written ≠ some key → key ≠ written :=
    fun different same => different (congrArg some same.symm)
  cases use with
  | get read => exact .inl rfl
  | put written value lifetime =>
      exact .inl (table.find?_put_of_ne now value lifetime (other elsewhere))
  | patch written change lifetime =>
      exact .inl (table.find?_put_of_ne now _ lifetime (other elsewhere))
  | remove written => exact .inl (table.find?_erase_of_ne (other elsewhere))
  | sweep => exact .inr (table.find?_sweep now key)

end QuotaRing.Store
