import QuotaRing.Json.Value
import QuotaRing.Text.Utf8

/-!
# Answers to requests

An answer has a status, the type of its content, the content, and two headers
that only some answers carry.
-/

namespace QuotaRing.Http

/-- What an answer contains. -/
inductive Content where
  | bytes (bytes : List UInt8)
  | json (value : Json.Value)

def Content.toBytes : Content → List UInt8
  | .bytes stored => stored
  | .json tree => Text.Utf8.encode tree.render

/-- An answer to a request. -/
structure Response where
  status : Nat
  contentType? : Option String
  content : Content
  /-- The seconds after which the caller should try again. -/
  retryAfter? : Option UInt64 := none
  /-- The methods that the path of the request allows. -/
  allow? : Option String := none

namespace Response

def plainText : String := "text/plain; charset=utf-8"

def jsonType : String := "application/json"

def octets : String := "application/octet-stream"

def empty (status : Nat) : Response where
  status := status
  contentType? := none
  content := .bytes []

def text (status : Nat) (message : String) : Response where
  status := status
  contentType? := some plainText
  content := .bytes (Text.Utf8.encode message)

def json (status : Nat) (value : Json.Value) : Response where
  status := status
  contentType? := some jsonType
  content := .json value

def value (status : Nat) (bytes : List UInt8) : Response where
  status := status
  contentType? := some octets
  content := .bytes bytes

def headOnly (response : Response) : Response :=
  { response with content := .bytes [] }

end Response

end QuotaRing.Http
