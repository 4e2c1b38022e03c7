import QuotaRing.Bytes.XxHash
import QuotaRing.Error
import QuotaRing.Limit.Config
import QuotaRing.Store.Table

/-!
# Counters

The hits of a subject against a limit of a group are stored under a key that
is made of the names of the group and the limit and a digest of the subject.
Counters can be kept in any store that patches values.
-/

namespace QuotaRing.Limit

open QuotaRing.Store (Key Patch Table)

/-- What happens to a state of type `σ` before an answer or an error. -/
abbrev Action (σ α : Type) : Type :=
  ExceptT Error (StateM σ) α

/-- A store of values whose state is of type `σ`. -/
structure Datastore (σ : Type) where
  get : Key → Action σ (Option (List UInt8))
  put : Key → List UInt8 → Span → Action σ Unit
  remove : Key → Action σ Unit
  patch : Key → Patch → Span → Action σ (List UInt8)

/-- The store of one node, whose clock reads `now`. -/
def Datastore.ofTable (now : Int64) : Datastore Table where
  get key := fun table => (.ok (table.get? now key), table)
  put key value lifetime := fun table =>
    (.ok (), table.put now key value lifetime)
  remove key := fun table => (.ok (), (table.remove now key).2)
  patch key patch lifetime := fun table =>
    let (result, table) := table.patch now key patch lifetime
    (.ok result, table)

/-- A subject of any length as 32 hexadecimal digits. -/
@[irreducible]
def digest (subject : String) : List Char :=
  let hash (seed : UInt64) : List Char :=
    Text.Hexadecimal.fixed 16 (XxHash.hash seed (Text.Utf8.encode subject)).toNat
  hash 0 ++ hash 1

def counterText (subject group limit : String) : String :=
  String.ofList
    ("ratelimit".toList ++ [':'] ++ group.toList ++ [':'] ++ limit.toList ++
      [':'] ++ digest subject)

def unusableKey (group limit : String) : Error :=
  .configuration
    ("Unusable rate limit key for limit " ++ limit ++ " in group " ++ group ++
      ": " ++ Malformed.invalidKey.message)

/-- The key of the counter of a subject for a limit of a group. -/
@[irreducible]
def counterKey (subject group limit : String) : Except Error Key :=
  match Key.ofText? (counterText subject group limit) with
  | some key => .ok key
  | none => .error (unusableKey group limit)

/-- The decoded value or the error that reports why there is none. -/
def decoded {α : Type} [Wire.Coded α] (bytes : List UInt8) : Except Error α :=
  match Wire.decode bytes with
  | .ok value => .ok value
  | .error error => .error (.decoding error)

variable {σ : Type}

/-- Count one hit of a subject at `now`. -/
def hit
    (store : Datastore σ)
    (now : Int64)
    (method : Method)
    (subject group : String)
    (definition : Definition) :
    Action σ Verdict := do
  let key ← counterKey subject group definition.id
  let result ← store.patch key
    (.trackHit
      { quota := definition.quota
        method := method
        stamp := now })
    definition.unit.span
  decoded (α := Verdict) result

/-- The window of a subject as it stands at `now`, if there is one. -/
def current
    (store : Datastore σ)
    (now : Int64)
    (subject group : String)
    (definition : Definition) :
    Action σ (Option Window) := do
  let key ← counterKey subject group definition.id
  match ← store.get key with
  | none => pure none
  | some bytes =>
      match Wire.decode bytes with
      | .ok (window : Window) => pure (some (window.viewAt now))
      | .error _ => pure none

end QuotaRing.Limit
