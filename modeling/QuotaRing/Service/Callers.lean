import QuotaRing.Http.Form
import QuotaRing.Http.MediaType
import QuotaRing.Http.Request
import QuotaRing.Json.Reader
import QuotaRing.Node.State

/-!
# Requests about limits

Whoever serves a request asks whether its subject is within the limits, which
counts it, or how much of the limits is left.
-/

namespace QuotaRing.Service

open QuotaRing.Http (Request Response)
open QuotaRing.Peer (Network)

/-- A request that is to be counted. -/
structure Tracked where
  callers : List String
  uri : String
  method : String

/-- A request to be counted of which not all fields have been read. -/
structure TrackedDraft where
  callers? : Option (List String) := none
  uri? : Option String := none
  method? : Option String := none

namespace TrackedDraft

/-- The fields of a request to be counted in their order. -/
def fields : List (Json.Field TrackedDraft) :=
  [.optional "groups" callers?
      (fun draft callers => { draft with callers? := some callers })
      (Json.array Json.string) [],
    .required "uri" uri? (fun draft uri => { draft with uri? := some uri })
      Json.string,
    .required "method" method?
      (fun draft method => { draft with method? := some method })
      Json.string]

/-- The request whose fields have all been read. -/
def finish? (draft : TrackedDraft) : Option Tracked := do
  some
    { callers := ← draft.callers?
      uri := ← draft.uri?
      method := ← draft.method? }

end TrackedDraft

def Tracked.reader : Json.Reader Tracked :=
  Json.finished TrackedDraft.finish? (Json.record TrackedDraft.fields {})

def maxJsonBody : Nat := 2 * 1024 * 1024

/-- Whether the body of a request is said to be JSON. -/
def saysJson (request : Request) : Bool :=
  match request.headers.text? "content-type" with
  | some mediaType => Http.MediaType.isJson mediaType
  | none => false

/-- The request to be counted that a body is, or the answer that refuses it. -/
def trackedOf (request : Request) : Except Response Tracked :=
  if !saysJson request then
    .error (.text 415 "Expected request with `Content-Type: application/json`")
  else if maxJsonBody < request.body.length then
    .error (.text 413 "Failed to buffer the request body: length limit exceeded")
  else
    match Json.document Tracked.reader request.body with
    | .ok tracked => .ok tracked
    | .error .malformed =>
        .error (.text 400 "Failed to parse the request body as JSON")
    | .error .mismatch =>
        .error (.text 422
          "Failed to deserialize the JSON body into the target type")

def splitAtCommas (text : List Char) : List (List Char) :=
  text.foldr
    (fun character parts =>
      if character = ',' then [] :: parts
      else
        match parts with
        | [] => [[character]]
        | part :: others => (character :: part) :: others)
    [[]]

/-- The names in a list that is separated by commas, without blank ones. -/
def names (text : String) : List String :=
  (((splitAtCommas text.toList).map Text.trim).filter (!·.isEmpty)).map
    String.ofList

/-- The groups that a query names, or the answer that refuses it. -/
def callersOf (request : Request) : Except Response (List String) :=
  match (Http.Form.pairs request.query).filter (·.1 == "groups") with
  | [] => .ok []
  | [(_, value)] => .ok (names value)
  | _ => .error (.text 400 "Failed to deserialize query string")

/-- The subject that a segment of a path names, or the answer that refuses it. -/
def subjectOf (segment : List UInt8) : Except Response String :=
  match Text.Utf8.decode? (Http.Percent.decode segment) with
  | some subject => .ok subject
  | none => .error (.text 400 "Invalid URL: Invalid UTF-8 in `subject`")

def allowedResponse (subject : String) : Response :=
  .json 200 (.object [("subject", .string subject), ("allowed", .bool true)])

variable {σ : Type}

/-- Decide on the request that a body describes, and count it. -/
def answerTrack
    (network : Network σ)
    (now : Int64)
    (trace : String)
    (segment : List UInt8)
    (request : Request) :
    StateM (Node × σ) Response := fun state =>
  let wanted : Except Response (String × Tracked) := do
    let subject ← subjectOf segment
    .ok (subject, ← trackedOf request)
  match wanted with
  | .error response => (response, state)
  | .ok (subject, tracked) =>
      let (result, state) :=
        Node.track network now trace subject tracked.callers tracked.uri
          tracked.method state
      match result with
      | .error error => (error.response, state)
      | .ok decision =>
          match decision.error? with
          | some error => (error.response, state)
          | none => (allowedResponse subject, state)

/-- Report what is left of the limits of a subject. -/
def answerQuery
    (network : Network σ)
    (now : Int64)
    (trace : String)
    (segment : List UInt8)
    (request : Request) :
    StateM (Node × σ) Response := fun state =>
  let wanted : Except Response (String × List String) := do
    let subject ← subjectOf segment
    .ok (subject, ← callersOf request)
  match wanted with
  | .error response => (response, state)
  | .ok (subject, callers) =>
      match Node.query network now trace subject callers state with
      | (.error error, state) => (error.response, state)
      | (.ok reports, state) => (.json 200 reports.toJson, state)

end QuotaRing.Service
