import QuotaRing.Error
import QuotaRing.Http.Response
import QuotaRing.Store.Table

/-!
# Commands and outcomes

A command is one operation on the store of a node as it travels between
peers; its outcome is what the peer that carries it out reports back.
-/

namespace QuotaRing.Peer

open QuotaRing.Store (Key Patch Table)

/-- One operation on a store. -/
inductive Command where
  | get (key : Key)
  | put (key : Key) (value : List UInt8) (lifetime : Span)
  | patch (key : Key) (change : Patch) (lifetime : Span)
  | delete (key : Key)
  deriving DecidableEq

/-- What a command reports back. -/
inductive Outcome where
  | value (value? : Option (List UInt8))
  | stored
  | patched (result : List UInt8)
  | removed
  deriving DecidableEq

namespace Command

def key : Command → Key
  | .get key => key
  | .put key _ _ => key
  | .patch key _ _ => key
  | .delete key => key

/-- The method of the request that carries a command. -/
def method : Command → String
  | .get _ => "GET"
  | .put _ _ _ => "PUT"
  | .patch _ _ _ => "PATCH"
  | .delete _ => "DELETE"

/-- Carry out a command on a store whose clock reads `now`. -/
def run (command : Command) (now : Int64) (table : Table) : Outcome × Table :=
  match command with
  | .get key => (.value (table.get? now key), table)
  | .put key value lifetime => (.stored, table.put now key value lifetime)
  | .patch key change lifetime =>
      let (result, table) := table.patch now key change lifetime
      (.patched result, table)
  | .delete key => (.removed, (table.remove now key).2)

end Command

namespace Outcome

def response : Outcome → Http.Response
  | .value (some bytes) => .value 200 bytes
  | .value none => .empty 404
  | .stored => .empty 202
  | .patched result => .value 200 result
  | .removed => .empty 204

end Outcome

end QuotaRing.Peer
