import QuotaRing.Proofs.Service.LongBodies
import QuotaRing.Proofs.Service.Visits

/-!
# Who is admitted

A policy is set up from addresses or from texts that write them, and a caller
comes with an address of its own; all three may be of version four or mapped
into version six.  Main statement: whatever has happened before, exactly those
callers are admitted whose address has the canonical form of a listed one, and a
request on an object of any other caller is refused before anything of it is
looked at and without any change.
-/

namespace QuotaRing.Net

/-- The version six address that stands for one of version four. -/
def Ip.mappedFrom (bits : BitVec 32) : Ip :=
  .v6 (BitVec.ofNat 128 (0xffff * 0x100000000 + bits.toNat))

theorem canonical_mappedFrom (bits : BitVec 32) :
    (Ip.mappedFrom bits).canonical = (Ip.v4 bits).canonical := by
  have below := bits.isLt
  have number : (BitVec.ofNat 128 (0xffff * 0x100000000 + bits.toNat)).toNat =
      0xffff * 0x100000000 + bits.toNat := by
    rw [BitVec.toNat_ofNat]
    omega
  have mapped : Ip.mapped?
      (BitVec.ofNat 128 (0xffff * 0x100000000 + bits.toNat)) = some bits := by
    rw [Ip.mapped?, if_pos (by rw [number]; omega), Option.some.injEq]
    apply BitVec.eq_of_toNat_eq
    rw [BitVec.toNat_setWidth, number]
    omega
  simp only [Ip.mappedFrom, Ip.canonical, mapped]

end QuotaRing.Net

namespace QuotaRing.Cluster

open QuotaRing.Net (Ip)

/-- What a policy is set up from. -/
inductive Policy where
  | everyone
  | addresses (listed : List Ip)
  | hosts (resolver : Resolver) (texts : List String)

namespace Policy

/-- The policy as a node goes by it, or a host that has no address. -/
def access : Policy → Except String Access
  | everyone => .ok .everyone
  | addresses listed => .ok (.ofList listed)
  | hosts resolver texts => Access.resolve resolver texts

/-- Whether all hosts are given by addresses. -/
def IsLiteral : Policy → Prop
  | hosts _ texts => ∀ text ∈ texts, (Ip.ofText? text).isSome = true
  | _ => True

/-- Whether a caller has the canonical form of a listed address. -/
def Admits : Policy → Ip → Prop
  | everyone, _ => True
  | addresses listed, caller =>
      ∃ ip ∈ listed, ip.canonical = caller.canonical
  | hosts _ texts, caller =>
      ∃ text ∈ texts, ∃ ip, Ip.ofText? text = some ip ∧
        ip.canonical = caller.canonical

end Policy

namespace Access

theorem admits_ofList_iff (listed : List Ip) (caller : Ip) :
    (ofList listed).admits caller = true ↔
      ∃ ip ∈ listed, ip.canonical = caller.canonical := by
  rw [ofList, admits, List.contains_iff_mem, List.mem_map]

theorem admits_congr
    {left right : Ip}
    (same : left.canonical = right.canonical)
    (access : Access) :
    access.admits left = access.admits right := by
  cases access with
  | everyone => rfl
  | listed addresses => rw [admits, admits, same]

theorem ofList_mappedFrom (before behind : List Ip) (bits : BitVec 32) :
    ofList (before ++ .mappedFrom bits :: behind) =
      ofList (before ++ .v4 bits :: behind) := by
  simp only [ofList, List.map_append, List.map_cons, Net.canonical_mappedFrom]

/-- Addresses in texts need no resolver. -/
theorem resolve_of_literal
    (resolver : Resolver)
    {texts : List String}
    (literal : ∀ text ∈ texts, (Ip.ofText? text).isSome = true) :
    resolve resolver texts =
      .ok (ofList (texts.flatMap fun text => (Ip.ofText? text).toList)) := by
  rw [resolve,
    @Checks.mapM_eq_ok _ _ _ _ fun text => (Ip.ofText? text).toList]
  · rfl
  · intro text member
    rcases Option.isSome_iff_exists.1 (literal text member) with ⟨ip, read⟩
    rw [addresses?, read]
    rfl

end Access

/-- A policy of addresses is set up, and admits exactly whom it lists. -/
theorem Policy.exists_access
    {policy : Policy}
    (literal : policy.IsLiteral) :
    ∃ access, policy.access = .ok access ∧
      ∀ caller, access.admits caller = true ↔ policy.Admits caller := by
  cases policy with
  | everyone => exact ⟨.everyone, rfl, fun _ => iff_of_true rfl trivial⟩
  | addresses listed => exact ⟨.ofList listed, rfl, Access.admits_ofList_iff listed⟩
  | hosts resolver texts =>
      refine ⟨_, Access.resolve_of_literal resolver literal, ?_⟩
      intro caller
      rw [Access.admits_ofList_iff]
      constructor
      · rintro ⟨ip, member, same⟩
        rcases List.mem_flatMap.1 member with ⟨text, held, read⟩
        exact ⟨text, held, ip, Option.mem_toList.1 read, same⟩
      · rintro ⟨text, held, ip, read, same⟩
        exact ⟨ip, List.mem_flatMap.2 ⟨text, held, Option.mem_toList.2 read⟩, same⟩

end QuotaRing.Cluster

namespace QuotaRing.Service

open QuotaRing.Cluster (Access)
open QuotaRing.Http (Request Response)
open QuotaRing.Net (Ip)
open QuotaRing.Store (Table)

/-- What a caller who is not admitted is told about a request on an object. -/
def turnedAway (method : String) : Response :=
  if method == "HEAD" then notAdmitted.headOnly else notAdmitted

theorem status_turnedAway (method : String) : (turnedAway method).status = 401 := by
  rw [turnedAway]
  split
  · rfl
  · rfl

/-! ## No other answer says that a caller is not admitted -/

theorem ne_notAdmitted_of_status
    {response : Response}
    (other : response.status ≠ 401) :
    response ≠ notAdmitted := by
  rintro rfl
  exact other rfl

theorem refusal_ne_notAdmitted (method : String) (kind : Malformed) :
    refusal method kind ≠ notAdmitted := by
  intro same
  have texts : Text.Utf8.encode kind.message =
      Text.Utf8.encode "Host is not allowed to access the datastore" :=
    congrArg (fun response => response.content.toBytes) same
  revert texts
  cases kind with
  | _ => decide +kernel

theorem response_ne_notAdmitted (outcome : Peer.Outcome) :
    outcome.response ≠ notAdmitted := by
  apply ne_notAdmitted_of_status
  cases outcome with
  | value value? =>
      cases value? with
      | none =>
          show (404 : Nat) ≠ 401
          decide
      | some bytes =>
          show (200 : Nat) ≠ 401
          decide
  | stored =>
      show (202 : Nat) ≠ 401
      decide
  | patched result =>
      show (200 : Nat) ≠ 401
      decide
  | removed =>
      show (204 : Nat) ≠ 401
      decide

variable
    {access : Access}
    {caller : Ip}
    (maxObject : Nat)
    (now : Int64)
    (segment : List UInt8)
    (request : Request)
    (table : Table)

theorem answerObject_of_not_admitted (refused : access.admits caller = false) :
    answerObject access maxObject now caller segment request table =
      (notAdmitted, table) := by
  rw [answerObject, if_neg (by rw [refused]; exact Bool.false_ne_true)]

theorem answerObject_ne_notAdmitted (admits : access.admits caller = true) :
    (answerObject access maxObject now caller segment request table).1 ≠
      notAdmitted := by
  rw [answerObject, if_pos admits]
  cases Text.Utf8.decode? (Http.Percent.decode segment) with
  | none =>
      apply ne_notAdmitted_of_status
      show (400 : Nat) ≠ 401
      decide
  | some keyText =>
      dsimp only
      rw [carryOut]
      cases commandOf request keyText maxObject with
      | error kind => exact refusal_ne_notAdmitted request.method kind
      | ok command => exact response_ne_notAdmitted (command.run now table).1

end QuotaRing.Service

namespace QuotaRing.Station

open QuotaRing.Cluster (Access Policy)
open QuotaRing.Http (Request Response)
open QuotaRing.Net (Ip)
open QuotaRing.Run (after)
open QuotaRing.Service (IsOnObject notAdmitted turnedAway)

section

variable
    {station : Station}
    {caller : Ip}
    {request : Request}
    {segment : List UInt8}
    (onObject : IsOnObject request segment)
    (now : Int64)
    (trace : String)

include onObject

/-- Nothing of a request of a caller who is not admitted matters but its method. -/
theorem receive_of_not_admitted
    (refused : station.node.access.admits caller = false) :
    receive now (.request trace caller request) station =
      (some (turnedAway request.method), station.at_ now) := by
  rw [receive_of_object onObject,
    Service.answerObject_of_not_admitted _ _ _ _ _ refused]
  rfl

theorem receive_ne_notAdmitted
    (admits : station.node.access.admits caller = true)
    (whole : request.method ≠ "HEAD") :
    (receive now (.request trace caller request) station).1 ≠
      some notAdmitted := by
  have notHead : ¬ (request.method == "HEAD") = true := fun head =>
    whole (eq_of_beq head)
  rw [receive_of_object onObject]
  simp only [if_neg notHead, ne_eq, Option.some.injEq]
  exact Service.answerObject_ne_notAdmitted _ _ _ _ _ admits

end

/--
A policy of addresses, or of texts that write them, is set up.  While it is the
last one set, whatever has reached the station before or since, exactly those
callers are admitted who have the canonical form of a listed address, and an
address of version four counts as the one mapped from it does, in the policy and
in a caller.  Every request on an object of any other caller is answered alike,
whatever else it holds and whatever the station stores, and changes nothing; and
no request of an admitted caller is answered so.
-/
theorem admits_exactly
    {policy : Policy}
    (literal : policy.IsLiteral) :
    ∃ access, policy.access = .ok access ∧
      ∀ (station : Station) (moments : List (Moment Visit)),
        inForce station.node.access moments = access →
        let state := after receive station moments
        (∀ caller,
          state.node.access.admits caller = true ↔ policy.Admits caller) ∧
        (∀ bits before behind,
          state.node.access.admits (.v4 bits) =
              state.node.access.admits (.mappedFrom bits) ∧
            Access.ofList (before ++ .v4 bits :: behind) =
              Access.ofList (before ++ .mappedFrom bits :: behind)) ∧
        ∀ (now : Int64) (trace : String) (caller : Ip) (request : Request)
          (segment : List UInt8),
          IsOnObject request segment →
          (¬ policy.Admits caller →
            (turnedAway request.method).status = 401 ∧
              receive now (.request trace caller request) state =
                (some (turnedAway request.method), state.at_ now)) ∧
          (policy.Admits caller → request.method ≠ "HEAD" →
            (receive now (.request trace caller request) state).1 ≠
              some notAdmitted) := by
  rcases Policy.exists_access literal with ⟨access, built, admits⟩
  refine ⟨access, built, ?_⟩
  intro station moments inForceNow state
  have current : state.node.access = access :=
    (access_after station moments).trans inForceNow
  rw [current]
  refine ⟨admits, ?alike, ?requests⟩
  case alike =>
    intro bits before behind
    exact ⟨Access.admits_congr (Net.canonical_mappedFrom bits).symm access,
      (Access.ofList_mappedFrom before behind bits).symm⟩
  case requests =>
    intro now trace caller request segment onObject
    constructor
    · intro refused
      refine ⟨Service.status_turnedAway _, ?_⟩
      apply receive_of_not_admitted onObject
      rw [current]
      exact Bool.eq_false_iff.2 fun admitted => refused ((admits caller).1 admitted)
    · intro admitted whole
      apply receive_ne_notAdmitted onObject now trace _ whole
      rw [current]
      exact (admits caller).2 admitted

/--
Two hosts are listed, one by its mapped address.  The latter is admitted by its
own address; a third host learns nothing of its body being too long.
-/
theorem admits_exactly_mapped :
    let policy : Policy := .hosts Cluster.ownHost ["10.0.0.2", "::ffff:10.0.0.3"]
    let access := Access.ofList [.v4 0x0a000002, .mappedFrom 0x0a000003]
    let station := after receive smallStation [⟨1700000000000, .replace access⟩]
    policy.IsLiteral ∧
      policy.access = .ok access ∧
      station.node.access.admits (.v4 0x0a000003) = true ∧
      receive 1700000000001
          (.request "t" (.v4 0x0a000004) (longRequest "PUT")) station =
        (some notAdmitted, station.at_ 1700000000001) := by
  intro policy access station
  have literal : policy.IsLiteral := by
    intro text member
    revert text
    decide +kernel
  rcases admits_exactly literal with ⟨other, built, inEffect⟩
  have same : policy.access = .ok access := by decide +kernel
  cases built.symm.trans same
  have onObject : IsOnObject (longRequest "PUT") [0x6b] :=
    ⟨by decide +kernel, by decide⟩
  rcases inEffect smallStation [⟨1700000000000, .replace access⟩] rfl with
    ⟨admits, _, answers⟩
  have listed : station.node.access.admits (.v4 0x0a000003) = true := by
    decide +kernel
  have unlisted : ¬ policy.Admits (.v4 0x0a000004) := by
    rw [← admits]
    decide +kernel
  exact ⟨literal, same, listed,
    ((answers 1700000000001 "t" _ _ _ onObject).1 unlisted).2⟩

end QuotaRing.Station
