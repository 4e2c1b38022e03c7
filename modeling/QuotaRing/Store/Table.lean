import QuotaRing.Store.Key
import QuotaRing.Store.Patch
import QuotaRing.Time.Span

/-!
# The store of one node

A table holds an entry under each of its keys: a value and the clock reading
from which the entry counts as absent.  That no key has two entries belongs to
the type.  Entries stay in the table after they have ceased to live until a
sweep takes them out, which no other operation can tell.  Every operation is
given the reading of the clock.
-/

namespace QuotaRing.Store

/-- A stored value and the clock reading at which it ceases to live. -/
structure Entry where
  value : List UInt8
  expiresAt : Int64
  deriving DecidableEq, Repr

namespace Entry

/-- The entry that is written at `now` to live for a span. -/
def written (value : List UInt8) (now : Int64) (lifetime : Span) : Entry where
  value := value
  expiresAt := Saturating.add now lifetime.millis

/-- Whether an entry is still to be seen at `now`. -/
def isLive (entry : Entry) (now : Int64) : Bool :=
  now < entry.expiresAt

end Entry

/-- The entries of one node, at most one under each key. -/
structure Table where
  entries : List (Key × Entry)
  distinct : (entries.map Prod.fst).Nodup
  deriving DecidableEq

namespace Table

def empty : Table where
  entries := []
  distinct := List.nodup_nil

/-- The entries with some property, at most one under each key still. -/
theorem distinct_filter (table : Table) (keeps : Key × Entry → Bool) :
    ((table.entries.filter keeps).map Prod.fst).Nodup :=
  (List.filter_sublist.map Prod.fst).nodup table.distinct

/-- The number of entries, live or not. -/
def size (table : Table) : Nat :=
  table.entries.length

/-- The entry under a key, live or not. -/
def find? (table : Table) (key : Key) : Option Entry :=
  table.entries.lookup key

/-- The value that lives under a key at `now`. -/
def get? (table : Table) (now : Int64) (key : Key) : Option (List UInt8) :=
  ((table.find? key).filter (·.isLive now)).map Entry.value

def erase (table : Table) (key : Key) : Table where
  entries := table.entries.filter fun entry => entry.1 != key
  distinct := table.distinct_filter _

theorem notMem_keys_erase (table : Table) (key : Key) :
    key ∉ (table.erase key).entries.map Prod.fst := by
  intro member
  obtain ⟨entry, held, same⟩ := List.mem_map.1 member
  have kept := (List.mem_filter.1 held).2
  rw [same, bne_self_eq_false] at kept
  cases kept

/-- The table with exactly the given entry under a key. -/
def insert (table : Table) (key : Key) (entry : Entry) : Table where
  entries := (key, entry) :: (table.erase key).entries
  distinct := by
    rw [List.map_cons]
    exact List.nodup_cons.2
      ⟨table.notMem_keys_erase key, (table.erase key).distinct⟩

/-- Write a value, in place of any other and of its lifetime. -/
def put
    (table : Table)
    (now : Int64)
    (key : Key)
    (value : List UInt8)
    (lifetime : Span) :
    Table :=
  table.insert key (Entry.written value now lifetime)

/-- Take out a key, and tell whether a live value was under it. -/
def remove (table : Table) (now : Int64) (key : Key) : Bool × Table :=
  ((table.get? now key).isSome, table.erase key)

/-- Patch the value that lives under a key, and answer what the patch tells. -/
def patch
    (table : Table)
    (now : Int64)
    (key : Key)
    (patch : Patch)
    (lifetime : Span) :
    List UInt8 × Table :=
  let patched := patch.apply (table.get? now key)
  (patched.result, table.put now key patched.value lifetime)

/-- Take out the entries that no longer live, and tell their number. -/
def sweep (table : Table) (now : Int64) : Nat × Table :=
  let live : Table :=
    { entries := table.entries.filter fun entry => entry.2.isLive now
      distinct := table.distinct_filter _ }
  (table.size - live.size, live)

@[simp]
theorem find?_insert_self
    (table : Table)
    (key : Key)
    (entry : Entry) :
    (table.insert key entry).find? key = some entry := by
  simp [find?, insert]

@[simp]
theorem find?_erase_self (table : Table) (key : Key) :
    (table.erase key).find? key = none := by
  simp only [find?, erase, List.lookup_eq_none_iff, List.mem_filter]
  intro entry member
  rw [bne_iff_ne, ne_comm, ← bne_iff_ne]
  exact member.2

end Table

end QuotaRing.Store
