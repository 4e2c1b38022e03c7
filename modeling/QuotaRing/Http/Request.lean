import QuotaRing.Http.Headers
import QuotaRing.Http.Percent

/-!
# Requests

A request has a method, a uri, header fields and a body.  The part of a uri
after a number sign is not sent; the part after a question mark is the query.
-/

namespace QuotaRing.Http

/-- A request as it reaches a node. -/
structure Request where
  method : String
  uri : String
  headers : Headers
  body : List UInt8

/-- The texts between the slashes of a text. -/
def splitAtSlashes (bytes : List UInt8) : List (List UInt8) :=
  bytes.foldr
    (fun byte parts =>
      if byte == 0x2f then [] :: parts
      else
        match parts with
        | [] => [[byte]]
        | part :: others => (byte :: part) :: others)
    [[]]

namespace Request

def sent (request : Request) : List UInt8 :=
  (Text.Utf8.encode request.uri).takeWhile (· != 0x23)

def path (request : Request) : List UInt8 :=
  request.sent.takeWhile (· != 0x3f)

def query (request : Request) : List UInt8 :=
  request.sent.drop (request.path.length + 1)

/-- The texts between the slashes of the path, of which the first is empty. -/
def segments (request : Request) : List (List UInt8) :=
  splitAtSlashes request.path

end Request

end QuotaRing.Http
