import QuotaRing.Proofs.Peer.Delivery
import QuotaRing.Proofs.Run

/-!
# Visits to a station

Requests of any callers reach a station one after another, at readings of its
clock that need not be in order, and between them its policy may be replaced.
The policy in force is the one set last, whatever has been requested.
-/

namespace QuotaRing.Service

open QuotaRing.Http (Request)
open QuotaRing.Net (Ip)
open QuotaRing.Peer (Network)

/--
Whether a request is on the object that a segment names: its path is that of all
objects with the segment behind it.
-/
structure IsOnObject (request : Request) (segment : List UInt8) : Prop where
  path : request.segments = Resource.segments Peer.objectPath ++ [segment]
  filled : segment ≠ []

theorem IsOnObject.routes
    {request : Request}
    {segment : List UInt8}
    (onObject : IsOnObject request segment) :
    Resource.ofSegments? request.segments = some (.object segment) := by
  rw [onObject.path]
  exact Peer.resource_of_objectPath onObject.filled

/-! ## Answers leave the policy alone -/

variable
    {σ : Type}
    (network : Network σ)
    (now : Int64)
    (trace : String)
    (request : Request)
    (state : Node × σ)

theorem access_answerTrack (segment : List UInt8) :
    (answerTrack network now trace segment request state).2.1.access =
      state.1.access := by
  rw [answerTrack]
  split
  · rfl
  · split
    next told =>
      have same := (congrArg (fun answer => answer.2.1.access) told).symm
      split
      · exact same
      · split
        · exact same
        · exact same

theorem access_answerQuery (segment : List UInt8) :
    (answerQuery network now trace segment request state).2.1.access =
      state.1.access := by
  rw [answerQuery]
  split
  · rfl
  · split
    · next told => exact (congrArg (fun answer => answer.2.1.access) told).symm
    · next told => exact (congrArg (fun answer => answer.2.1.access) told).symm

theorem access_answerFull (caller : Ip) :
    (answerFull network now trace caller request state).2.1.access =
      state.1.access := by
  rw [answerFull]
  cases Resource.ofSegments? request.segments with
  | none => rfl
  | some resource =>
      dsimp only
      cases resource.allowed?.filter (!·.contains request.method) with
      | some methods => rfl
      | none =>
          cases resource with
          | welcome => rfl
          | health => rfl
          | about => rfl
          | counting subject => exact access_answerTrack _ _ _ _ _ _
          | limits subject => exact access_answerQuery _ _ _ _ _ _
          | object key => rfl

end QuotaRing.Service

namespace QuotaRing.Station

open QuotaRing.Cluster (Access)
open QuotaRing.Http (Request Response)
open QuotaRing.Net (Ip)
open QuotaRing.Run (after)

/-- What may reach a station. -/
inductive Visit where
  | replace (access : Access)
  | request (trace : String) (caller : Ip) (request : Request)

/-- The station whose clock reads `now`. -/
def at_ (station : Station) (now : Int64) : Station :=
  { station with now := now }

/-- The station that goes by another policy. -/
def withAccess (station : Station) (access : Access) : Station :=
  { station with node := { station.node with access := access } }

/-- What a visit does to a station whose clock reads `now`. -/
def receive (now : Int64) : Visit → StateM Station (Option Response)
  | .replace access => fun station =>
      (none, (station.at_ now).withAccess access)
  | .request trace caller request => fun station =>
      ((station.at_ now).serve trace caller request).map some id

/-- The policy that a visit sets. -/
def Visit.set? : Visit → Option Access
  | .replace access => some access
  | .request _ _ _ => none

/-- The policy in force after a run, if one was in force before it. -/
def inForce (first : Access) (moments : List (Moment Visit)) : Access :=
  ((moments.filterMap (·.event.set?)).getLast?).getD first

/-- A request on an object meets the policy and the table, and may change the latter. -/
theorem receive_of_object
    {request : Request}
    {segment : List UInt8}
    (onObject : Service.IsOnObject request segment)
    (now : Int64)
    (trace : String)
    (caller : Ip)
    (station : Station) :
    receive now (.request trace caller request) station =
      let (response, table) := Service.answerObject station.node.access
        station.node.maxObject now caller segment request
        station.node.site.table
      (some (if request.method == "HEAD" then response.headOnly else response),
        (station.at_ now).withTable table) := by
  show ((station.at_ now).serve trace caller request).map some id = _
  rw [(station.at_ now).serve_of_object onObject.routes]
  rfl

/-- A request does not change the policy. -/
theorem access_serve
    (station : Station)
    (trace : String)
    (caller : Ip)
    (request : Request) :
    (station.serve trace caller request).2.node.access =
      station.node.access :=
  Service.access_answerFull _ _ _ _ _ _

theorem access_receive
    (now : Int64)
    (visit : Visit)
    (station : Station) :
    (receive now visit station).2.node.access =
      visit.set?.getD station.node.access := by
  cases visit with
  | replace access => rfl
  | request trace caller request => exact access_serve _ _ _ _

theorem access_after (station : Station) (moments : List (Moment Visit)) :
    (after receive station moments).node.access =
      inForce station.node.access moments := by
  induction moments generalizing station with
  | nil => rfl
  | cons moment rest ih =>
      rw [after, ih, access_receive, inForce, inForce, List.filterMap_cons]
      cases moment.event.set? with
      | none => rfl
      | some access => rw [List.getLast?_cons]; rfl

end QuotaRing.Station
