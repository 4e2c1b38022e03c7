import QuotaRing.Http.Response
import QuotaRing.Net.Endpoint
import QuotaRing.Time.Instant
import QuotaRing.Wire.Varint

/-!
# Errors

What can go wrong, by cause, with the name of its kind, the message for
callers, and the status of the answer that reports it.  A peer's request that
breaks the contract of the store is malformed in one of seven ways.
-/

namespace QuotaRing

/-- How a request to the store of a node breaks its contract. -/
inductive Malformed where
  | missingHostKey
  | invalidKey
  | tooLarge
  | lifetimeNotPositive
  | undecodablePatch
  | methodNotAllowed
  | unexpectedAnswer
  deriving DecidableEq, Repr

namespace Malformed

def message : Malformed → String
  | missingHostKey => "No host key specified in header x-pp-host-key"
  | invalidKey => "Cache key specified is invalid"
  | tooLarge => "Object is too large to store into the cache"
  | lifetimeNotPositive => "TTL header value must be a positive integer"
  | undecodablePatch => "Patch body could not be decoded"
  | methodNotAllowed => "Method not supported for datastore objects"
  | unexpectedAnswer => "Unexpected behavior from remote datastore peer"

def status : Malformed → Nat
  | missingHostKey => 401
  | methodNotAllowed => 405
  | _ => 400

end Malformed

/-- The name of a decoding error, and for bytes left over their number. -/
def Wire.DecodeError.message : Wire.DecodeError → String
  | .unexpectedEnd => "UnexpectedEnd"
  | .invalidInteger => "InvalidIntegerType"
  | .invalidBoolean => "InvalidBooleanValue"
  | .invalidText => "Utf8"
  | .invalidVariant => "OtherString"
  | .trailing count =>
      Text.Decimal.render count ++ " trailing bytes after value"

/-- What can go wrong. -/
inductive Error where
  | configuration (message : String)
  | argument (message : String)
  | malformed (kind : Malformed)
  /-- A peer could not be reached. -/
  | transport (message : String)
  /-- A peer answered with an error. -/
  | rejected (peer : Net.Endpoint) (status : Nat)
  | overLimit (limit : String) (nextAvailable : Instant) (retryAfter : UInt64)
  | api (message : String)
  | io (message : String)
  /-- A text is not the JSON that is wanted. -/
  | json
  /-- Bytes are not the form of a value. -/
  | binary (message : String)
  | concurrency (message : String)
  deriving DecidableEq

namespace Error

def decoding (error : Wire.DecodeError) : Error :=
  .binary error.message

def kind : Error → String
  | configuration _ => "configuration_error"
  | argument _ => "invalid_argument"
  | malformed _ => "malformed_cache_request"
  | transport _ => "transport_error"
  | rejected _ _ => "peer_rejected"
  | overLimit _ _ _ => "rate_limit_exceeded"
  | api _ => "api_error"
  | io _ => "io_error"
  | json => "serialization_error"
  | binary _ => "serialization_error"
  | concurrency _ => "concurrency_error"

def message : Error → String
  | configuration message => "Configuration error: " ++ message
  | argument message => "Invalid argument: " ++ message
  | malformed kind => "Malformed cache request: " ++ kind.message
  | transport message => "Transport error: " ++ message
  | rejected peer status =>
      "Peer " ++ peer.render ++ " rejected request with status " ++
        Text.Decimal.render status
  | overLimit limit nextAvailable _ =>
      "Over limit for " ++ limit ++ "; next available at " ++
        nextAvailable.renderOffset
  | api message => "API error: " ++ message
  | io message => "I/O error: " ++ message
  | json => "Serialization error: JSON"
  | binary message => "Serialization error: Binary codec: " ++ message
  | concurrency message => "Concurrency error: " ++ message

/-- The status of the answer that reports an error. -/
def status : Error → Nat
  | configuration _ => 500
  | argument _ => 400
  | malformed kind => kind.status
  | transport _ => 503
  | rejected _ _ => 502
  | overLimit _ _ _ => 429
  | api _ => 400
  | io _ => 500
  | json => 500
  | binary _ => 500
  | concurrency _ => 500

/-- Whether another owner may be asked after an error. -/
def isTransport : Error → Bool
  | transport _ => true
  | _ => false

/-- Whether another error lies beneath an error. -/
def hasSource : Error → Bool
  | io _ => true
  | json => true
  | _ => false

def response (error : Error) : Http.Response :=
  let report := Http.Response.json error.status
    (.object [("error", .object
      [("code", .natural error.status),
        ("message", .string error.message),
        ("type", .string error.kind)])])
  match error with
  | overLimit _ _ retryAfter => { report with retryAfter? := some retryAfter }
  | _ => report

end Error

end QuotaRing
