import QuotaRing.Proofs.Checks
import QuotaRing.Proofs.Node.OneStore

/-!
# Bodies that are not read to their end

A node reads the body of a request on an object no further than an object may
be large, and has to decide on a longer one without the rest.  Main statement:
it decides as the whole body does exactly when the body is not longer, the
request writes, or the request is refused for its sender, its key or its
lifetime.  A longer body under any other method is refused for its size, where
the whole of it would be ignored or the method be refused.
-/

namespace QuotaRing.Service

open QuotaRing.Http (Request Response)
open QuotaRing.Peer (Command checkEnvelope isWrite lifetime)
open QuotaRing.Store (Key Table)

/-- What the whole body of a request decides, however long it is. -/
def wholeDecision
    (request : Request)
    (keyText : String)
    (maxObject : Nat) :
    Except Malformed Command :=
  Command.ofRequest request.method keyText request.headers request.body
    maxObject

/-- The answer to a request on which something has been decided. -/
def settle
    (method : String)
    (now : Int64)
    (table : Table)
    (decision : Except Malformed Command) :
    Response × Table :=
  match decision with
  | .error kind => (refusal method kind, table)
  | .ok command =>
      ((command.run now table).1.response, (command.run now table).2)

theorem carryOut_eq_settle
    (maxObject : Nat)
    (now : Int64)
    (keyText : String)
    (request : Request)
    (table : Table) :
    carryOut maxObject now keyText request table =
      settle request.method now table (commandOf request keyText maxObject) := by
  rw [carryOut]
  cases commandOf request keyText maxObject with
  | error kind => rfl
  | ok command => rfl

/--
The part of a body that is read is all of it, or the rest does not matter: a
write is refused for its size anyway, and a fault of the fields comes first.
-/
def IsReadEnough
    (request : Request)
    (keyText : String)
    (maxObject : Nat) :
    Prop :=
  request.body.length ≤ maxObject ∨
    isWrite request.method = true ∨
      ∃ kind,
        checkEnvelope request.method keyText request.headers = .error kind

variable
    {request : Request}
    {keyText : String}
    {maxObject : Nat}

/-! ## The two decisions, one after the other -/

theorem commandOf_of_short (short : request.body.length ≤ maxObject) :
    commandOf request keyText maxObject =
      wholeDecision request keyText maxObject :=
  if_neg (Nat.not_lt.2 short)

theorem wholeDecision_of_refused
    {kind : Malformed}
    (refused : checkEnvelope request.method keyText request.headers =
      .error kind) :
    wholeDecision request keyText maxObject = .error kind := by
  rw [wholeDecision, Command.ofRequest, refused]
  rfl

theorem commandOf_of_refused
    {kind : Malformed}
    (refused : checkEnvelope request.method keyText request.headers =
      .error kind) :
    commandOf request keyText maxObject = .error kind := by
  rw [commandOf]
  split
  · rw [refused]
    rfl
  · exact wholeDecision_of_refused refused

theorem commandOf_of_long
    {key : Key}
    (long : maxObject < request.body.length)
    (passed : checkEnvelope request.method keyText request.headers = .ok key) :
    commandOf request keyText maxObject = .error .tooLarge := by
  rw [commandOf, if_pos long, passed]
  rfl

/-- A write that passes the first checks has a lifetime. -/
theorem lifetime_of_passed
    {method : String}
    {headers : Http.Headers}
    {key : Key}
    (passed : checkEnvelope method keyText headers = .ok key)
    (writes : isWrite method = true) :
    ∃ span, lifetime headers = .ok span := by
  rw [checkEnvelope] at passed
  rcases Checks.bind_eq_ok passed with ⟨_, _, passed⟩
  rcases Checks.bind_eq_ok passed with ⟨_, _, passed⟩
  rw [if_pos writes] at passed
  rcases Checks.bind_eq_ok passed with ⟨span, limited, _⟩
  exact ⟨span, limited⟩

theorem wholeDecision_of_long_write
    {key : Key}
    (long : maxObject < request.body.length)
    (writes : isWrite request.method = true)
    (passed : checkEnvelope request.method keyText request.headers = .ok key) :
    wholeDecision request keyText maxObject = .error .tooLarge := by
  rcases lifetime_of_passed passed writes with ⟨span, limited⟩
  have notGet : ¬ (request.method == "GET") = true := by
    intro same
    rw [eq_of_beq same] at writes
    cases writes
  have notDelete : ¬ (request.method == "DELETE") = true := by
    intro same
    rw [eq_of_beq same] at writes
    cases writes
  rw [wholeDecision, Command.ofRequest, passed]
  simp only [bind, Except.bind, if_neg notGet, if_neg notDelete, if_pos writes,
    limited, Command.ofWrite, if_pos long]

/-- What a request that writes nothing comes to, whatever its body. -/
theorem wholeDecision_of_passed
    {key : Key}
    (reads : isWrite request.method = false)
    (passed : checkEnvelope request.method keyText request.headers = .ok key) :
    wholeDecision request keyText maxObject =
      if request.method == "GET" then .ok (.get key)
      else if request.method == "DELETE" then .ok (.delete key)
      else .error .methodNotAllowed := by
  rw [wholeDecision, Command.ofRequest, passed]
  simp only [bind, Except.bind, reads, Bool.false_eq_true, if_false]

theorem commandOf_of_readEnough
    (enough : IsReadEnough request keyText maxObject) :
    commandOf request keyText maxObject =
      wholeDecision request keyText maxObject := by
  rcases enough with short | writes | ⟨kind, refused⟩
  · exact commandOf_of_short short
  · rcases Nat.lt_or_ge maxObject request.body.length with long | short
    · cases passed : checkEnvelope request.method keyText request.headers with
      | error kind =>
          rw [commandOf_of_refused passed, wholeDecision_of_refused passed]
      | ok key =>
          rw [commandOf_of_long long passed,
            wholeDecision_of_long_write long writes passed]
    · exact commandOf_of_short short
  · rw [commandOf_of_refused refused, wholeDecision_of_refused refused]

/-! ## Where they part -/

/-- What is left when a request is not read enough. -/
theorem passed_of_not_readEnough
    (wanting : ¬ IsReadEnough request keyText maxObject) :
    maxObject < request.body.length ∧ isWrite request.method = false ∧
      ∃ key,
        checkEnvelope request.method keyText request.headers = .ok key := by
  rw [IsReadEnough, not_or, not_or] at wanting
  refine ⟨Nat.not_le.1 wanting.1, Bool.eq_false_iff.2 wanting.2.1, ?_⟩
  cases passed : checkEnvelope request.method keyText request.headers with
  | error kind => exact absurd ⟨kind, passed⟩ wanting.2.2
  | ok key => exact ⟨key, rfl⟩

theorem commandOf_of_not_readEnough
    (wanting : ¬ IsReadEnough request keyText maxObject) :
    commandOf request keyText maxObject = .error .tooLarge := by
  rcases passed_of_not_readEnough wanting with ⟨long, _, key, passed⟩
  exact commandOf_of_long long passed

theorem status_settle_tooLarge
    (method : String)
    (now : Int64)
    (table : Table) :
    (settle method now table (.error .tooLarge)).1.status = 400 := by
  have other : ¬ (method == "GET" && Malformed.tooLarge = .invalidKey) = true := by
    simp
  simp only [settle, refusal, if_neg other]
  rfl

/-- No request that is not read enough would be a bad one. -/
theorem status_settle_wholeDecision
    (wanting : ¬ IsReadEnough request keyText maxObject)
    (now : Int64)
    (table : Table) :
    (settle request.method now table
      (wholeDecision request keyText maxObject)).1.status ≠ 400 := by
  rcases passed_of_not_readEnough wanting with ⟨_, reads, key, passed⟩
  rw [wholeDecision_of_passed reads passed]
  split
  · simp only [settle, Command.run]
    cases table.get? now key with
    | none =>
        show (404 : Nat) ≠ 400
        decide
    | some value =>
        show (200 : Nat) ≠ 400
        decide
  · split
    · show (204 : Nat) ≠ 400
      decide
    · have other : ¬ (request.method == "GET" &&
          Malformed.methodNotAllowed = .invalidKey) = true := by
        simp
      simp only [settle, refusal, if_neg other]
      show (405 : Nat) ≠ 400
      decide

theorem commandOf_eq_wholeDecision_iff :
    commandOf request keyText maxObject =
        wholeDecision request keyText maxObject ↔
      IsReadEnough request keyText maxObject := by
  constructor
  · intro same
    by_contra wanting
    apply status_settle_wholeDecision wanting 0 .empty
    rw [← same, commandOf_of_not_readEnough wanting, status_settle_tooLarge]
  · exact commandOf_of_readEnough

end QuotaRing.Service

namespace QuotaRing.Station

open QuotaRing.Http (Request Response)
open QuotaRing.Net (Endpoint Ip)
open QuotaRing.Peer (Command)
open QuotaRing.Service (IsReadEnough commandOf settle wholeDecision)

/-- What a station answers to a request on which something has been decided. -/
def settled
    (station : Station)
    (method : String)
    (decision : Except Malformed Command) :
    Response × Station :=
  let (response, table) :=
    settle method station.now station.node.site.table decision
  (if method == "HEAD" then response.headOnly else response,
    station.withTable table)

theorem status_settled
    (station : Station)
    (method : String)
    (decision : Except Malformed Command) :
    (station.settled method decision).1.status =
      (settle method station.now station.node.site.table decision).1.status := by
  rw [settled]
  dsimp only
  split
  · rfl
  · rfl

section

variable
    {station : Station}
    {caller : Ip}
    {request : Request}
    {segment : List UInt8}
    {keyText : String}
    (admits : station.node.access.admits caller = true)
    (routes : Service.Resource.ofSegments? request.segments =
      some (.object segment))
    (reads : Text.Utf8.decode? (Http.Percent.decode segment) = some keyText)

include admits routes reads

/-- A station settles a request on an object by the part that it reads. -/
theorem serve_eq_settled (trace : String) :
    station.serve trace caller request =
      station.settled request.method
        (commandOf request keyText station.node.maxObject) := by
  have answered : Service.answerObject station.node.access
      station.node.maxObject station.now caller segment request
      station.node.site.table =
      settle request.method station.now station.node.site.table
        (commandOf request keyText station.node.maxObject) := by
    rw [Service.answerObject, if_pos admits, reads]
    exact Service.carryOut_eq_settle _ _ _ _ _
  rw [station.serve_of_object routes, answered]
  rfl

/--
A station that admits the caller settles a request on an object by its whole
body exactly when it reads enough of it, and otherwise refuses it as too large.
-/
theorem settles_by_whole_body_iff (trace : String) :
    (commandOf request keyText station.node.maxObject =
        wholeDecision request keyText station.node.maxObject ↔
      IsReadEnough request keyText station.node.maxObject) ∧
    (station.serve trace caller request =
        station.settled request.method
          (wholeDecision request keyText station.node.maxObject) ↔
      IsReadEnough request keyText station.node.maxObject) ∧
    (¬ IsReadEnough request keyText station.node.maxObject →
      station.serve trace caller request =
        station.settled request.method (.error .tooLarge)) := by
  have served := serve_eq_settled admits routes reads trace
  refine ⟨Service.commandOf_eq_wholeDecision_iff, ⟨?parts, ?agrees⟩, ?refused⟩
  case parts =>
    intro same
    by_contra wanting
    have status := congrArg (fun answer => answer.1.status) same
    rw [served, Service.commandOf_of_not_readEnough wanting] at status
    simp only [status_settled, Service.status_settle_tooLarge] at status
    exact Service.status_settle_wholeDecision wanting _ _ status.symm
  case agrees =>
    intro enough
    rw [served, Service.commandOf_of_readEnough enough]
  case refused =>
    intro wanting
    rw [served, Service.commandOf_of_not_readEnough wanting]

end

/-- A node that takes objects of ten bytes. -/
def smallStation : Station :=
  let station := Fleet.openStation (.v4 0x7f000001 8410) []
  { station with node := { station.node with maxObject := 10 } }

/-- A request on the object `k` with eleven bytes in its body. -/
def longRequest (method : String) : Request where
  method := method
  uri := "/powerapi/dist-datastore/objects/k"
  headers := [("x-pp-host-key", [112, 101, 101, 114])]
  body := [49, 50, 51, 52, 53, 54, 55, 56, 57, 48, 49]

/--
The whole body decides to read the object `k`, which is not there, but the
station answers that the object is too large; and it answers so to a method
that it does not support.
-/
theorem longRequest_refused :
    wholeDecision (longRequest "GET") "k" 10 = .ok (.get ⟨"k", by decide⟩) ∧
      commandOf (longRequest "GET") "k" 10 = .error .tooLarge ∧
      (smallStation.settled "GET"
        (wholeDecision (longRequest "GET") "k" 10)).1.status = 404 ∧
      (smallStation.serve "t" .loopback (longRequest "GET")).1.status = 400 ∧
      wholeDecision (longRequest "POST") "k" 10 = .error .methodNotAllowed ∧
      (smallStation.serve "t" .loopback (longRequest "POST")).1.status = 400 := by
  decide +kernel

/-- A long body under a method that writes nothing is refused for its size. -/
theorem settles_by_whole_body_iff_long :
    ¬ IsReadEnough (longRequest "DELETE") "k" 10 ∧
      smallStation.serve "t" .loopback (longRequest "DELETE") =
        smallStation.settled "DELETE" (.error .tooLarge) := by
  have wanting : ¬ IsReadEnough (longRequest "DELETE") "k" 10 := by
    rintro (short | writes | ⟨kind, refused⟩)
    · exact absurd short (by decide)
    · cases writes
    · have passed : Peer.checkEnvelope "DELETE" "k"
          (longRequest "DELETE").headers = .ok ⟨"k", by decide⟩ := by
        decide +kernel
      exact absurd (passed.symm.trans refused) (by simp)
  have admits : smallStation.node.access.admits .loopback = true := rfl
  have routes : Service.Resource.ofSegments? (longRequest "DELETE").segments =
      some (.object [0x6b]) := by
    decide +kernel
  have reads : Text.Utf8.decode? (Http.Percent.decode [0x6b]) = some "k" := by
    decide +kernel
  exact ⟨wanting,
    (settles_by_whole_body_iff admits routes reads "t").2.2 wanting⟩

end QuotaRing.Station
