import QuotaRing.Limit.Counter
import QuotaRing.Limit.Rules

/-!
# Deciding on requests

A request is charged to every limit of the group of its caller that counts it,
in the order of the configuration, and then to the shared limits.  Charging
stops at the first limit that is used up.
-/

namespace QuotaRing.Limit

/-- The subject to whom the shared limits are charged. -/
def sharedSubject : String := "GlobalLimitUser"

/-- One counter that a request is charged to. -/
structure Charge where
  subject : String
  group : String
  definition : Definition

/-- What is decided on a request. -/
inductive Decision where
  | allowed
  | overLimit (limit : String) (nextAvailable : Instant) (retryAfter : UInt64)
  deriving DecidableEq

namespace Decision

def isAllowed : Decision → Bool
  | allowed => true
  | overLimit _ _ _ => false

/-- The error that reports a request which is not allowed. -/
def error? : Decision → Option Error
  | allowed => none
  | overLimit limit nextAvailable retryAfter =>
      some (.overLimit limit nextAvailable retryAfter)

end Decision

/-- The charges to the given rules that count a request. -/
def chargesOf
    (rules : List Rule)
    (subject group uri : String)
    (method : Method) :
    List Charge :=
  (rules.filter (·.counts uri method)).map fun rule =>
    { subject := subject, group := group, definition := rule.definition }

def charges
    (rules : Rules)
    (subject : String)
    (callers : List String)
    (uri : String)
    (method : Method) :
    List Charge :=
  let own :=
    match rules.groupFor? callers with
    | some group => chargesOf group.rules subject group.id uri method
    | none => []
  own ++ chargesOf rules.shared sharedSubject sharedGroup uri method

variable {σ : Type}

/-- Charge in order, up to the first limit that is used up. -/
def chargeAll
    (store : Datastore σ)
    (now : Int64)
    (method : Method) :
    List Charge → Action σ Decision
  | [] => pure .allowed
  | charge :: rest => do
      let verdict ← hit store now method charge.subject charge.group
        charge.definition
      if verdict.allowed then chargeAll store now method rest
      else
        pure (.overLimit charge.definition.id
          (Instant.ofMillis verdict.nextAvailable) (verdict.retryAfter now))

def checkSubject (subject : String) : Except Error Unit :=
  if Text.isBlankText subject then
    .error (.argument "subject must not be blank")
  else
    .ok ()

/-- Decide on a request and count it. -/
def track
    (store : Datastore σ)
    (rules : Rules)
    (now : Int64)
    (subject : String)
    (callers : List String)
    (uri method : String) :
    Action σ Decision := do
  checkSubject subject
  match Method.read method with
  | .error message => throw (.argument message)
  | .ok method =>
      chargeAll store now method (charges rules subject callers uri method)

/-- A limit as it stands for one subject. -/
structure Report where
  definition : Definition
  remaining : UInt32
  nextAvailable : Instant

/-- The limits of a subject. -/
structure Reports where
  /-- The name of the group that applies, if any does. -/
  group? : Option String
  reports : List Report

/-- Report one limit without counting anything. -/
def report
    (store : Datastore σ)
    (now : Int64)
    (subject group : String)
    (definition : Definition) :
    Action σ Report := do
  match ← current store now subject group definition with
  | some window =>
      pure
        { definition := definition
          remaining := UInt32.ofNat window.remaining
          nextAvailable := Instant.ofMillis (window.nextAvailable now) }
  | none =>
      pure
        { definition := definition
          remaining := definition.value
          nextAvailable := Instant.ofMillis now }

/-- Report every limit of the group that applies to a caller. -/
def query
    (store : Datastore σ)
    (rules : Rules)
    (now : Int64)
    (subject : String)
    (callers : List String) :
    Action σ Reports := do
  checkSubject subject
  match rules.groupFor? callers with
  | none => pure { group? := none, reports := [] }
  | some group => do
      let reports ← group.rules.mapM fun rule =>
        report store now subject group.id rule.definition
      pure { group? := some group.id, reports := reports }

def Report.toJson (report : Report) : Json.Value :=
  .object
    [("id", .string report.definition.id),
      ("uri", .string report.definition.uri),
      ("uri_regex", .string report.definition.pattern),
      ("methods", .strings (report.definition.methods.map Method.name)),
      ("unit", .string report.definition.unit.name),
      ("value", .natural report.definition.value.toNat),
      ("remaining", .natural report.remaining.toNat),
      ("next_available", .string report.nextAvailable.renderZulu)]

def Reports.toJson (reports : Reports) : Json.Value :=
  .object
    [("limit_group",
        match reports.group? with
        | some group => .string group
        | none => .null),
      ("rates", .array (reports.reports.map Report.toJson))]

end QuotaRing.Limit
