import QuotaRing.Service.Callers
import QuotaRing.Service.Objects

/-!
# What a node answers

The path of a request names a resource.  Objects take every method; of the
others each takes reading or writing alone.  That a path names nothing is told
to the callers alone who may use the store.  An answer to a request for the
head alone has no content.
-/

namespace QuotaRing.Service

open QuotaRing.Http (Request Response)
open QuotaRing.Net (Ip)
open QuotaRing.Peer (Network)

/-- The name under which the service presents itself. -/
def serviceName : String := "dipper"

def serviceVersion : String := "0.1.0"

/-- What the path of a request names. -/
inductive Resource where
  | welcome
  | health
  | about
  /-- The counting of requests of a subject. -/
  | counting (subject : List UInt8)
  /-- The limits of a subject. -/
  | limits (subject : List UInt8)
  | object (key : List UInt8)
  deriving DecidableEq

namespace Resource

def segments (path : String) : List (List UInt8) :=
  Request.segments { method := "", uri := path, headers := [], body := [] }

/-- The resource that a path in segments names. -/
def ofSegments? (path : List (List UInt8)) : Option Resource :=
  let last := path.getLastD []
  if path = segments "/" then some welcome
  else if path = segments "/health" then some health
  else if path = segments "/about" then some about
  else if last.isEmpty then none
  else if path.dropLast = segments "/rl" then some (counting last)
  else if path.dropLast = segments "/rl-check" then some (limits last)
  else if path.dropLast = segments Peer.objectPath then some (object last)
  else none

/-- The methods that a resource allows, if it does not take all of them. -/
def allowed? : Resource → Option (List String)
  | welcome => some ["GET", "HEAD"]
  | health => some ["GET", "HEAD"]
  | about => some ["GET", "HEAD"]
  | counting _ => some ["POST"]
  | limits _ => some ["GET", "HEAD"]
  | object _ => none

end Resource

/-- The path under which requests of a subject are counted. -/
def countingPath (subject : String) : String :=
  "/rl/" ++ subject

/-- The path under which the limits of a subject are found. -/
def limitsPath (subject : String) : String :=
  "/rl-check/" ++ subject

def aboutResponse : Response :=
  .json 200 (.object
    [("name", .string serviceName), ("version", .string serviceVersion)])

/-- The answer to a method that a resource does not allow. -/
def notAllowed (methods : List String) : Response :=
  { Response.empty 405 with allow? := some (",".intercalate methods) }

variable {σ : Type}

/-- The answer of a resource to a request whose method it takes. -/
def answerResource
    (network : Network σ)
    (now : Int64)
    (trace : String)
    (caller : Ip)
    (resource : Resource)
    (request : Request) :
    StateM (Node × σ) Response :=
  match resource with
  | .welcome => pure (.text 200 "Welcome to Dipper")
  | .health => pure (.text 200 "OK")
  | .about => pure aboutResponse
  | .counting subject => answerTrack network now trace subject request
  | .limits subject => answerQuery network now trace subject request
  | .object key => fun (node, world) =>
      let (response, table) :=
        answerObject node.access node.maxObject now caller key request
          node.site.table
      (response, ({ node with site := { node.site with table := table } }, world))

/-- The answer to a request whose path names nothing. -/
def answerNowhere (caller : Ip) : StateM (Node × σ) Response := do
  let (node, _) ← get
  pure (if node.access.admits caller then .empty 404 else notAdmitted)

def answerFull
    (network : Network σ)
    (now : Int64)
    (trace : String)
    (caller : Ip)
    (request : Request) :
    StateM (Node × σ) Response :=
  match Resource.ofSegments? request.segments with
  | none => answerNowhere caller
  | some resource =>
      match resource.allowed?.filter (!·.contains request.method) with
      | some methods => pure (notAllowed methods)
      | none => answerResource network now trace caller resource request

def answer
    (network : Network σ)
    (now : Int64)
    (trace : String)
    (caller : Ip)
    (request : Request) :
    StateM (Node × σ) Response := do
  let response ← answerFull network now trace caller request
  pure (if request.method == "HEAD" then response.headOnly else response)

end QuotaRing.Service
