import QuotaRing.Http.Request
import QuotaRing.Peer.Command

/-!
# The protocol between peers

A command travels as a request whose path ends in the key, as one segment.
Fields name the sender, trace the request and give the lifetime of what is
written in whole seconds; the body is the value or the patch.  The status of
the answer tells the outcome.
-/

namespace QuotaRing.Peer

open QuotaRing.Http (Headers Request)
open QuotaRing.Net (Endpoint)
open QuotaRing.Store (Key Patch)

def objectPath : String := "/powerapi/dist-datastore/objects"

def hostKeyField : String := "x-pp-host-key"

/-- The field that gives the lifetime of what is written. -/
def lifetimeField : String := "x-ttl"

def traceField : String := "x-trans-id"

/-- The lifetime of what is written without one. -/
def defaultLifetime : Span := Span.ofSeconds 60

/-- The most bytes of a value or a patch, unless a node is set otherwise. -/
def defaultMaxObject : Nat := 2 * 1024 * 1024

/-! ## What is read from the fields of a request -/

/-- The name of the sender, which may not be blank. -/
def hostKey (headers : Headers) : Except Malformed String :=
  match (headers.text? hostKeyField).filter (!Text.isBlankText ·) with
  | some name => .ok name
  | none => .error .missingHostKey

/-- The lifetime written by a text: a positive number of seconds. -/
def lifetimeOfText? (text : String) : Option Span := do
  let seconds ← Text.Decimal.signed? (Text.trim text.toList)
  if 0 < seconds then some (Span.ofSeconds seconds.toUInt64) else none

/-- The lifetime that a request gives, or the usual one. -/
def lifetime (headers : Headers) : Except Malformed Span :=
  match headers.first? lifetimeField with
  | none => .ok defaultLifetime
  | some value =>
      match (Http.visibleText? value).bind lifetimeOfText? with
      | some span => .ok span
      | none => .error .lifetimeNotPositive

/-- The trace that a request names, if it names one. -/
def trace? (headers : Headers) : Option String :=
  (headers.text? traceField).filter (!·.isEmpty)

def isWrite (method : String) : Bool :=
  method == "PUT" || method == "PATCH"

/-- The key of a text that came with a request. -/
def keyOf (text : String) : Except Malformed Key :=
  match Key.ofText? text with
  | some key => .ok key
  | none => .error .invalidKey

/--
What is checked before the body: the sender, the key, and the lifetime of what
is written.
-/
def checkEnvelope
    (method keyText : String)
    (headers : Headers) :
    Except Malformed Key := do
  let _ ← hostKey headers
  let key ← keyOf keyText
  if isWrite method then
    let _ ← lifetime headers
  .ok key

/-- The command of a write, whose body may not be too large. -/
def Command.ofWrite
    (method : String)
    (key : Key)
    (lifetime : Span)
    (body : List UInt8)
    (maxObject : Nat) :
    Except Malformed Command :=
  if maxObject < body.length then .error .tooLarge
  else if method == "PUT" then .ok (.put key body lifetime)
  else
    match Wire.decode body with
    | .ok (change : Patch) => .ok (.patch key change lifetime)
    | .error _ => .error .undecodablePatch

def Command.ofRequest
    (method keyText : String)
    (headers : Headers)
    (body : List UInt8)
    (maxObject : Nat) :
    Except Malformed Command := do
  let key ← checkEnvelope method keyText headers
  if method == "GET" then .ok (.get key)
  else if method == "DELETE" then .ok (.delete key)
  else if isWrite method then
    Command.ofWrite method key (← lifetime headers) body maxObject
  else .error .methodNotAllowed

/-! ## The request that carries a command -/

/-- A request that is ready to be sent. -/
structure Outgoing where
  peer : Endpoint
  method : String
  /-- The path of the object. -/
  path : List Char
  /-- The fields in the order of their names. -/
  headers : Headers
  /-- The body, if the method has one. -/
  body? : Option (List UInt8)

/-- Why no request carries a command. -/
inductive Unsendable where
  /-- No uri names a peer in a zone. -/
  | zonedPeer (peer : Endpoint)
  /-- The value of a field may not be sent. -/
  | forbiddenValue
  deriving DecidableEq

/-- The error that reports a peer whom no uri names. -/
def unusablePeer (peer : Endpoint) : Error :=
  .argument ("Unusable peer address " ++ peer.render ++
    ": invalid IPv6 address")

/-- The path of an object.  The keys `.` and `..` would name no segment. -/
def pathOf (key : Key) : List Char :=
  objectPath.toList ++
    if key.text == "." || key.text == ".." then []
    else '/' :: Http.Percent.encode key.bytes

/-- The scheme and the authority of the uris on a peer. -/
def originOf? : Endpoint → Option String
  | .v4 bits port => some (origin (Net.Ip.v4 bits) port)
  | .v6 bits port zone =>
      if zone = 0 then some (origin (Net.Ip.v6 bits) port) else none
where
  /-- The usual port is not written. -/
  origin (ip : Net.Ip) (port : UInt16) : String :=
    "http://" ++ ip.renderHost ++
      if port = 80 then "" else ":" ++ Text.Decimal.render port.toNat

def objectUri (peer : Endpoint) (key : Key) : Except Error String :=
  match originOf? peer with
  | some origin => .ok (origin ++ String.ofList (pathOf key))
  | none => .error (unusablePeer peer)

/-- The lifetime and the body of a command that writes. -/
def Command.payload? : Command → Option (Span × List UInt8)
  | .get _ => none
  | .put _ value lifetime => some (lifetime, value)
  | .patch _ change lifetime => some (lifetime, Wire.encode change)
  | .delete _ => none

/-- The request that carries a command to a peer. -/
def Command.request
    (command : Command)
    (peer : Endpoint)
    (hostKey trace : String) :
    Except Unsendable Outgoing :=
  let host := Text.Utf8.encode hostKey
  let trace := Text.Utf8.encode trace
  let lifetimes : Headers :=
    match command.payload? with
    | some (lifetime, _) =>
        [(lifetimeField,
          Text.Utf8.encode (Text.Decimal.render lifetime.headerSeconds.toNat))]
    | none => []
  if (originOf? peer).isNone then .error (.zonedPeer peer)
  else if host.all Http.isAllowed && trace.all Http.isAllowed then
    .ok
      { peer := peer
        method := command.method
        path := pathOf command.key
        headers := [(hostKeyField, host), (traceField, trace)] ++ lifetimes
        body? := command.payload?.map Prod.snd }
  else .error .forbiddenValue

/-- The request as it reaches the peer. -/
def Outgoing.received (outgoing : Outgoing) : Request where
  method := outgoing.method
  uri := String.ofList outgoing.path
  headers := outgoing.headers
  body := outgoing.body?.getD []

/-! ## The outcome that an answer reports -/

def isSuccess (status : Nat) : Bool :=
  200 ≤ status && status < 300

/-- The outcome of a command that an answer of a peer reports. -/
def Command.outcomeOf
    (command : Command)
    (peer : Endpoint)
    (status : Nat)
    (body : List UInt8) :
    Except Error Outcome :=
  match command with
  | .get _ =>
      if status = 200 then .ok (.value (some body))
      else if status = 404 then .ok (.value none)
      else .error (.rejected peer status)
  | .put _ _ _ =>
      if isSuccess status then .ok .stored else .error (.rejected peer status)
  | .patch _ _ _ =>
      if status = 200 then .ok (.patched body)
      else .error (.rejected peer status)
  | .delete _ =>
      if isSuccess status then .ok .removed else .error (.rejected peer status)

end QuotaRing.Peer
