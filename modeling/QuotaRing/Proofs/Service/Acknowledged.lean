import QuotaRing.Proofs.Service.Admission
import QuotaRing.Proofs.Store.History

/-!
# What requests of peers change

Requests on objects come from anyone and in any form, and the policy, the path,
the fields and the body are each checked in their turn.  Main statement: in
every run of them a request changes nothing unless it is answered that a write,
a patch or a removal has been carried out; then it has taken its full effect, on
the entry under the key that its path names, and on no other.
-/

namespace QuotaRing.Service

open QuotaRing.Cluster (Access)
open QuotaRing.Http (Headers Request Response)
open QuotaRing.Net (Ip)
open QuotaRing.Peer (Command isWrite lifetime lifetimeField)
open QuotaRing.Saturating (highest)
open QuotaRing.Store (Entry Key Table)

/-! ## What a request is told to change -/

/-- Whether an answer says that a write, a patch or a removal has been carried out. -/
def Acknowledges (method : String) (status : Nat) : Prop :=
  (method = "PUT" ∧ status = 202) ∨
    (method = "PATCH" ∧ status = 200) ∨
    (method = "DELETE" ∧ status = 204)

/-- Whether a segment of a path stands for the text of a key. -/
def Names (segment : List UInt8) (key : Key) : Prop :=
  Text.Utf8.decode? (Http.Percent.decode segment) = some key.text

/--
Whether a request is to last so many seconds: the positive number in its
field, or a minute without one.
-/
def LastsSeconds (headers : Headers) (seconds : Nat) : Prop :=
  (headers.first? lifetimeField = none ∧ seconds = 60) ∨
    ∃ value text number,
      headers.first? lifetimeField = some value ∧
        Http.visibleText? value = some text ∧
        Text.Decimal.signed? (Text.trim text.toList) = some number ∧
        0 < number ∧
        number.toInt = seconds

/--
The reading at which an entry ceases to live that is written at `now` to last
for some seconds.  Neither their milliseconds nor the reading pass the end of
the range.
-/
def ceases (now : Int64) (seconds : Nat) : Int :=
  min (now.toInt + min (1000 * seconds : Int) highest) highest

/-- Whether an entry holds a value and ceases to live as a request has it. -/
structure HoldsFor
    (request : Request)
    (now : Int64)
    (value : List UInt8)
    (entry : Entry) :
    Prop where
  value : entry.value = value
  ceases : ∃ seconds, LastsSeconds request.headers seconds ∧
    entry.expiresAt.toInt = ceases now seconds

/--
Whether a request that has been acknowledged has taken its effect on the entry
under a key: it is what the body holds, what the patch in the body makes of the
value that lived there, or gone.
-/
inductive TakesEffect
    (request : Request)
    (now : Int64)
    (answer : Response)
    (before after : Table)
    (key : Key) :
    Prop where
  | put
      {entry : Entry}
      (method : request.method = "PUT")
      (found : after.find? key = some entry)
      (holds : HoldsFor request now request.body entry)
  | patch
      {change : Store.Patch}
      {entry : Entry}
      (method : request.method = "PATCH")
      (decoded : Wire.decode request.body = .ok change)
      (told : answer.content.toBytes =
        (change.apply (before.get? now key)).result)
      (found : after.find? key = some entry)
      (holds : HoldsFor request now
        (change.apply (before.get? now key)).value entry)
  | delete
      (method : request.method = "DELETE")
      (absent : after.find? key = none)

/--
Whether a request on the object that a segment names has changed a table as the
answer tells.
-/
structure ChangesAsTold
    (request : Request)
    (segment : List UInt8)
    (now : Int64)
    (answer : Response)
    (before after : Table) :
    Prop where
  elsewhere : ∀ key, ¬ Names segment key → after.find? key = before.find? key
  unacknowledged : ¬ Acknowledges request.method answer.status → after = before
  acknowledged : Acknowledges request.method answer.status →
    ∃ key, Names segment key ∧ TakesEffect request now answer before after key

/-! ## Requests that are refused -/

section

variable
    {request : Request}
    {segment : List UInt8}
    {now : Int64}
    {answer : Response}
    {before after : Table}

theorem not_acknowledges_of_status
    {method : String}
    {status : Nat}
    (refused : 400 ≤ status) :
    ¬ Acknowledges method status := by
  rintro (⟨_, rfl⟩ | ⟨_, rfl⟩ | ⟨_, rfl⟩)
  all_goals omega

theorem not_acknowledges_of_method
    {method : String}
    {status : Nat}
    (other : method ≠ "PUT" ∧ method ≠ "PATCH" ∧ method ≠ "DELETE") :
    ¬ Acknowledges method status := by
  rintro (⟨same, _⟩ | ⟨same, _⟩ | ⟨same, _⟩)
  · exact other.1 same
  · exact other.2.1 same
  · exact other.2.2 same

/-- What is told of a request that changes nothing and is not acknowledged. -/
theorem ChangesAsTold.of_not_acknowledged
    (silent : ¬ Acknowledges request.method answer.status) :
    ChangesAsTold request segment now answer before before where
  elsewhere _ _ := rfl
  unacknowledged _ := rfl
  acknowledged told := absurd told silent

theorem status_refusal_le (method : String) (kind : Malformed) :
    400 ≤ (refusal method kind).status := by
  have own : 400 ≤ kind.status := by
    cases kind with
    | _ => decide
  simp only [refusal, Response.text]
  split
  · decide
  · exact own

/-- Leaving out the content of an answer does not change what it tells. -/
theorem ChangesAsTold.forMethod
    (told : ChangesAsTold request segment now answer before after) :
    ChangesAsTold request segment now
      (if request.method == "HEAD" then answer.headOnly else answer)
      before after := by
  split
  · next head =>
      have silent : ¬ Acknowledges request.method answer.status :=
        not_acknowledges_of_method (by rw [eq_of_beq head]; decide)
      rw [told.unacknowledged silent]
      exact .of_not_acknowledged silent
  · exact told

end

/-! ## Requests that are carried out -/

/-- What a request asks for, if it asks for something. -/
inductive Asks (request : Request) (key : Key) : Command → Prop where
  | get (method : request.method = "GET") : Asks request key (.get key)
  | put
      {span : Span}
      (method : request.method = "PUT")
      (lasts : lifetime request.headers = .ok span) :
      Asks request key (.put key request.body span)
  | patch
      {change : Store.Patch}
      {span : Span}
      (method : request.method = "PATCH")
      (lasts : lifetime request.headers = .ok span)
      (decoded : Wire.decode request.body = .ok change) :
      Asks request key (.patch key change span)
  | delete (method : request.method = "DELETE") :
      Asks request key (.delete key)

theorem text_of_passed
    {method keyText : String}
    {headers : Headers}
    {key : Key}
    (passed : Peer.checkEnvelope method keyText headers = .ok key) :
    key.text = keyText := by
  rw [Peer.checkEnvelope] at passed
  rcases Checks.bind_eq_ok passed with ⟨_, _, passed⟩
  rcases Checks.bind_eq_ok passed with ⟨found, read, passed⟩
  have same : found = key := by
    split at passed
    · rcases Checks.bind_eq_ok passed with ⟨_, _, passed⟩
      cases passed
      rfl
    · cases passed
      rfl
  rw [Peer.keyOf] at read
  split at read
  · next known =>
      cases read
      rw [← same]
      exact Key.ofText?_eq_some_iff.1 known
  · cases read

theorem asks_of_ofWrite
    {request : Request}
    {key : Key}
    {span : Span}
    {maxObject : Nat}
    {command : Command}
    (writes : isWrite request.method = true)
    (lasts : lifetime request.headers = .ok span)
    (wanted : Command.ofWrite request.method key span request.body maxObject =
      .ok command) :
    Asks request key command := by
  rw [Command.ofWrite] at wanted
  split at wanted
  · cases wanted
  · split at wanted
    · next put =>
        cases wanted
        exact .put (eq_of_beq put) lasts
    · next other =>
        have method : request.method = "PATCH" := by
          rw [isWrite, Bool.or_eq_true] at writes
          exact eq_of_beq (writes.resolve_left other)
        split at wanted
        · next change decoded =>
            cases wanted
            exact .patch method lasts decoded
        · cases wanted

/-- A request comes to a command that it asks for, on the key of its path. -/
theorem asks_of_commandOf
    {request : Request}
    {keyText : String}
    {maxObject : Nat}
    {command : Command}
    (wanted : commandOf request keyText maxObject = .ok command) :
    ∃ key, key.text = keyText ∧ Asks request key command := by
  rw [commandOf] at wanted
  split at wanted
  -- A body that is not read to its end leads to no command.
  · rcases Checks.bind_eq_ok wanted with ⟨_, _, refused⟩
    cases refused
  · rw [Command.ofRequest] at wanted
    rcases Checks.bind_eq_ok wanted with ⟨key, passed, wanted⟩
    refine ⟨key, text_of_passed passed, ?_⟩
    split at wanted
    · next method =>
        cases wanted
        exact .get (eq_of_beq method)
    · split at wanted
      · next method =>
          cases wanted
          exact .delete (eq_of_beq method)
      · split at wanted
        · next writes =>
            rcases Checks.bind_eq_ok wanted with ⟨span, lasts, wanted⟩
            exact asks_of_ofWrite writes lasts wanted
        · cases wanted

theorem exactMillis_of_lifetime
    {headers : Headers}
    {span : Span}
    (lasts : lifetime headers = .ok span) :
    ∃ seconds, LastsSeconds headers seconds ∧
      span.exactMillis = 1000 * seconds := by
  rw [lifetime] at lasts
  split at lasts
  · next absent =>
      cases lasts
      exact ⟨60, .inl ⟨absent, rfl⟩, by decide⟩
  · next value given =>
      split at lasts
      · next found read =>
          cases lasts
          rcases Option.bind_eq_some_iff.1 read with ⟨text, visible, read⟩
          rcases Option.bind_eq_some_iff.1 read with ⟨number, signed, read⟩
          rcases Option.ite_none_right_eq_some.1 read with ⟨positive, ⟨⟩⟩
          have same : number.toInt = (number.toUInt64.toNat : Int) := by
            have least := Int64.le_of_lt positive
            rw [Int64.toNat_toUInt64_of_le least, Int64.toNatClampNeg,
              Int.toNat_of_nonneg (Int64.le_iff_toInt_le.1 least)]
          refine ⟨number.toUInt64.toNat,
            .inr ⟨value, text, number, given, visible, signed, positive, same⟩,
            ?_⟩
          show number.toUInt64.toNat * 1000 + 0 / 1000000 = _
          omega
      · cases lasts

section

variable
    {request : Request}
    {segment : List UInt8}
    {keyText : String}
    {key : Key}
    {now : Int64}
    {table : Table}

theorem holdsFor_written
    (value : List UInt8)
    {span : Span}
    (lasts : lifetime request.headers = .ok span) :
    HoldsFor request now value (Entry.written value now span) := by
  rcases exactMillis_of_lifetime lasts with ⟨seconds, given, millis⟩
  refine ⟨rfl, seconds, given, ?_⟩
  rw [Entry.toInt_expiresAt_written, ceases, millis]
  rfl

/-- A request that comes to a command has the effect that the answer tells. -/
theorem Asks.changesAsTold
    {command : Command}
    (asks : Asks request key command)
    (named : Names segment key) :
    ChangesAsTold request segment now (command.run now table).1.response table
      (command.run now table).2 := by
  have other : ∀ another, ¬ Names segment another → another ≠ key := by
    rintro another unnamed rfl
    exact unnamed named
  cases asks with
  | get method =>
      exact .of_not_acknowledged
        (not_acknowledges_of_method (by rw [method]; decide))
  | put method lasts =>
      exact
        { elsewhere := fun another unnamed =>
            table.find?_put_of_ne now _ _ (other another unnamed)
          unacknowledged := fun silent => absurd (.inl ⟨method, rfl⟩) silent
          acknowledged := fun _ => ⟨key, named,
            .put method (table.find?_put_self now key _ _)
              (holdsFor_written request.body lasts)⟩ }
  | patch method lasts decoded =>
      exact
        { elsewhere := fun another unnamed =>
            table.find?_put_of_ne now _ _ (other another unnamed)
          unacknowledged := fun silent =>
            absurd (.inr (.inl ⟨method, rfl⟩)) silent
          acknowledged := fun _ => ⟨key, named,
            .patch method decoded rfl (table.find?_put_self now key _ _)
              (holdsFor_written _ lasts)⟩ }
  | delete method =>
      exact
        { elsewhere := fun another unnamed =>
            table.find?_erase_of_ne (other another unnamed)
          unacknowledged := fun silent =>
            absurd (.inr (.inr ⟨method, rfl⟩)) silent
          acknowledged := fun _ => ⟨key, named,
            .delete method (table.find?_erase_self key)⟩ }

theorem changesAsTold_carryOut
    (maxObject : Nat)
    (decoded : Text.Utf8.decode? (Http.Percent.decode segment) = some keyText) :
    ChangesAsTold request segment now
      (carryOut maxObject now keyText request table).1 table
      (carryOut maxObject now keyText request table).2 := by
  rw [carryOut]
  cases wanted : commandOf request keyText maxObject with
  | error kind =>
      exact .of_not_acknowledged
        (not_acknowledges_of_status (status_refusal_le request.method kind))
  | ok command =>
      rcases asks_of_commandOf wanted with ⟨key, rfl, asks⟩
      exact asks.changesAsTold decoded

/-- Every request on an object has the effect that its answer tells. -/
theorem changesAsTold_answerObject
    (access : Access)
    (maxObject : Nat)
    (caller : Ip) :
    ChangesAsTold request segment now
      (answerObject access maxObject now caller segment request table).1 table
      (answerObject access maxObject now caller segment request table).2 := by
  have unreadable : 400 ≤ unreadablePath.status := Nat.le_refl 400
  have refused : 400 ≤ notAdmitted.status := by decide
  rw [answerObject]
  split
  · split
    · next keyText decoded => exact changesAsTold_carryOut maxObject decoded
    · exact .of_not_acknowledged (not_acknowledges_of_status unreadable)
  · exact .of_not_acknowledged (not_acknowledges_of_status refused)

end

end QuotaRing.Service

namespace QuotaRing.Station

open QuotaRing.Http (Request Response)
open QuotaRing.Net (Ip)
open QuotaRing.Run (after history)
open QuotaRing.Service (Acknowledges ChangesAsTold IsOnObject Names)
open QuotaRing.Store (Key)

/-- Whether a visit is a request on an object, or sets the policy. -/
def Visit.IsOnObjects : Visit → Prop
  | .replace _ => True
  | .request _ _ asked => ∃ segment, IsOnObject asked segment

/-- Whether a record is of a request on the object of a key that is acknowledged. -/
def IsAcknowledgedOn
    (record : Record Station Visit (Option Response))
    (key : Key) :
    Prop :=
  ∃ trace caller request segment answer,
    record.moment.event = .request trace caller request ∧
      IsOnObject request segment ∧
      Names segment key ∧
      record.answer = some answer ∧
      Acknowledges request.method answer.status

variable
    {station : Station}
    {key : Key}

/-- A request on an object changes the table alone, and that as it is told. -/
theorem receive_changesAsTold
    {request : Request}
    {segment : List UInt8}
    (onObject : IsOnObject request segment)
    (now : Int64)
    (trace : String)
    (caller : Ip)
    (station : Station) :
    ∃ answer table,
      receive now (.request trace caller request) station =
          (some answer, (station.at_ now).withTable table) ∧
        ChangesAsTold request segment now answer station.node.site.table
          table :=
  ⟨_, _, receive_of_object onObject now trace caller station,
    Service.ChangesAsTold.forMethod
      (Service.changesAsTold_answerObject station.node.access
        station.node.maxObject caller)⟩

/-- One visit leaves an entry as it was, or acknowledges a change of it. -/
theorem find?_receive
    {now : Int64}
    {visit : Visit}
    (objects : visit.IsOnObjects)
    (silent : ¬ IsAcknowledgedOn
      { before := station
        moment := ⟨now, visit⟩
        answer := (receive now visit station).1 } key) :
    (receive now visit station).2.node.site.table.find? key =
      station.node.site.table.find? key := by
  cases visit with
  | replace access => rfl
  | request trace caller request =>
      rcases objects with ⟨segment, onObject⟩
      rcases receive_changesAsTold onObject now trace caller station with
        ⟨answer, table, received, told⟩
      have found : (receive now (.request trace caller request)
          station).2.node.site.table = table := by
        rw [received]
        rfl
      rw [found]
      by_cases acknowledged : Acknowledges request.method answer.status
      -- What is acknowledged is so on another key.
      · apply told.elsewhere
        intro named
        exact silent ⟨trace, caller, request, segment, answer, rfl, onObject,
          named, congrArg Prod.fst received, acknowledged⟩
      · rw [told.unacknowledged acknowledged]

/-- An entry is as it was after a run that acknowledges no change of it. -/
theorem find?_after
    {moments : List (Moment Visit)}
    (objects : ∀ moment ∈ moments, moment.event.IsOnObjects)
    (silent : ∀ record ∈ history receive station moments,
      ¬ IsAcknowledgedOn record key) :
    (after receive station moments).node.site.table.find? key =
      station.node.site.table.find? key := by
  induction moments generalizing station with
  | nil => rfl
  | cons moment rest ih =>
      have first := find?_receive (objects moment List.mem_cons_self)
        (silent _ List.mem_cons_self)
      have others := ih
        (fun other member => objects other (List.mem_cons_of_mem moment member))
        (fun record member => silent record (List.mem_cons_of_mem _ member))
      exact others.trans first

/--
In every run of requests on objects, with clocks that go as they will and
policies that are replaced, each request changes the table alone.  Unless it is
a write, a patch or a removal that is acknowledged, it changes nothing; if it is
one, it has taken its effect under the key that its path names; and no other
entry is changed.  So an entry that differs after a run has been changed by a
request on its key that was acknowledged.
-/
theorem changes_what_is_acknowledged
    (station : Station)
    (moments : List (Moment Visit))
    (objects : ∀ moment ∈ moments, moment.event.IsOnObjects) :
    (∀ record ∈ history receive station moments,
      ∀ trace caller request segment,
        record.moment.event = .request trace caller request →
        IsOnObject request segment →
        ∃ answer table,
          record.answer = some answer ∧
            (receive record.moment.now record.moment.event record.before).2 =
              (record.before.at_ record.moment.now).withTable table ∧
            ChangesAsTold request segment record.moment.now answer
              record.before.node.site.table table) ∧
    ∀ key,
      (after receive station moments).node.site.table.find? key ≠
          station.node.site.table.find? key →
        ∃ record ∈ history receive station moments,
          IsAcknowledgedOn record key := by
  constructor
  · intro record member trace caller request segment event onObject
    have answered := (Run.of_mem_history receive member).2
    rcases receive_changesAsTold onObject record.moment.now trace caller
      record.before with ⟨answer, table, received, told⟩
    rw [event] at answered ⊢
    refine ⟨answer, table, ?_, ?_, told⟩
    · rw [answered, received]
    · rw [received]
  · intro key changed
    by_contra missing
    apply changed
    apply find?_after objects
    intro record member acknowledged
    exact missing ⟨record, member, acknowledged⟩

/--
A byte is written for a minute; that a longer body is refused a second later
leaves it as it is.
-/
theorem changes_what_is_acknowledged_put :
    let key : Key := ⟨"k", by decide⟩
    let moments : List (Moment Visit) :=
      [⟨1700000000000,
          .request "t1" .loopback { longRequest "PUT" with body := [118] }⟩,
        ⟨1700000001000, .request "t2" .loopback (longRequest "PUT")⟩]
    (∀ moment ∈ moments, moment.event.IsOnObjects) ∧
      (after receive smallStation moments).node.site.table.find? key =
        some ⟨[118], 1700000060000⟩ ∧
      ∃ record ∈ history receive smallStation moments,
        IsAcknowledgedOn record key := by
  intro key moments
  have objects : ∀ moment ∈ moments, moment.event.IsOnObjects := by
    intro moment member
    simp only [moments, List.mem_cons, List.not_mem_nil, or_false] at member
    rcases member with rfl | rfl
    all_goals exact ⟨[0x6b], by decide +kernel, by decide⟩
  have written : (after receive smallStation moments).node.site.table.find? key =
      some ⟨[118], 1700000060000⟩ := by
    decide +kernel
  refine ⟨objects, written, ?_⟩
  apply (changes_what_is_acknowledged smallStation moments objects).2 key
  rw [written]
  decide +kernel

end QuotaRing.Station
