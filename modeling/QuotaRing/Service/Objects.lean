import QuotaRing.Cluster.Access
import QuotaRing.Peer.Protocol

/-!
# Requests of peers

Peers send commands on objects, which always work on the table of the node
itself.  Whether the caller is admitted is checked before anything else.  A
body that is larger than an object may be is not read, and whatever the method
the request is refused, for a fault of its fields first.
-/

namespace QuotaRing.Service

open QuotaRing.Cluster (Access)
open QuotaRing.Http (Request Response)
open QuotaRing.Net (Ip)
open QuotaRing.Peer (Command checkEnvelope)
open QuotaRing.Store (Table)

/-- What a caller is told that is not admitted. -/
def notAdmitted : Response :=
  .text 401 "Host is not allowed to access the datastore"

/-- What a caller is told whose path holds bytes that are no text. -/
def unreadablePath : Response :=
  .text 400 "Invalid URL: Invalid UTF-8 in `key`"

/--
The answer to a request that is refused.  A key that cannot be used simply has
no value to read.
-/
def refusal (method : String) (kind : Malformed) : Response :=
  let status :=
    if method == "GET" && kind = .invalidKey then 404 else kind.status
  .text status kind.message

/-- The command of a request, or how the request is malformed. -/
def commandOf
    (request : Request)
    (keyText : String)
    (maxObject : Nat) :
    Except Malformed Command :=
  if maxObject < request.body.length then do
    let _ ← checkEnvelope request.method keyText request.headers
    .error .tooLarge
  else
    Command.ofRequest request.method keyText request.headers request.body
      maxObject

/-- Carry out the command of a request of an admitted caller. -/
def carryOut
    (maxObject : Nat)
    (now : Int64)
    (keyText : String)
    (request : Request)
    (table : Table) :
    Response × Table :=
  match commandOf request keyText maxObject with
  | .error kind => (refusal request.method kind, table)
  | .ok command =>
      let (outcome, table) := command.run now table
      (outcome.response, table)

/-- The answer to a request on the object that a segment of its path names. -/
def answerObject
    (access : Access)
    (maxObject : Nat)
    (now : Int64)
    (caller : Ip)
    (segment : List UInt8)
    (request : Request)
    (table : Table) :
    Response × Table :=
  if access.admits caller then
    match Text.Utf8.decode? (Http.Percent.decode segment) with
    | some keyText => carryOut maxObject now keyText request table
    | none => (unreadablePath, table)
  else
    (notAdmitted, table)

end QuotaRing.Service
