import QuotaRing.Proofs.Node.OneStore

/-!
# Carrying out a command somewhere else

A request gives lifetimes in whole seconds, so a command may change on its way
to a peer, but in its lifetime alone, which is rounded up.  Main statement: a
peer that admits the caller reads the request for a command as the command with
its lifetime rounded up, does with its table what that command does, and its
answer is read as the outcome of that command.
-/

namespace QuotaRing

namespace Span

/-- The length of a span in nanoseconds. -/
def exactNanos (span : Span) : Nat :=
  span.seconds.toNat * nanosPerSecond + span.nanos

/-- The least number of whole seconds that is no shorter than a span. -/
def wholeSeconds (span : Span) : Nat :=
  (span.exactNanos + (nanosPerSecond - 1)) / nanosPerSecond

/-- The whole seconds that a span is rounded up to, at least one. -/
def roundedUp (span : Span) : Span :=
  ofSeconds (UInt64.ofNat (max 1 span.wholeSeconds))

/-- A span of no more seconds than a clock may read. -/
def IsReadable (span : Span) : Prop :=
  (span.exactNanos : Int) ≤ Saturating.highest * nanosPerSecond

instance (span : Span) : Decidable span.IsReadable :=
  inferInstanceAs (Decidable (_ ≤ _))

/-- A started second counts as a whole one. -/
theorem wholeSeconds_eq (span : Span) :
    span.wholeSeconds =
      span.seconds.toNat + if 0 < span.nanos then 1 else 0 := by
  have below := span.nanos_lt
  unfold wholeSeconds exactNanos
  unfold nanosPerSecond at below ⊢
  split <;> omega

theorem toNat_max_one (seconds : UInt64) :
    (max 1 seconds).toNat = max 1 seconds.toNat := by
  have bound : 1 ≤ seconds ↔ 1 ≤ seconds.toNat := UInt64.le_iff_toNat_le
  rw [show max 1 seconds = if 1 ≤ seconds then seconds else 1 from rfl]
  by_cases positive : 1 ≤ seconds
  · rw [if_pos positive, Nat.max_eq_right (bound.1 positive)]
  · rw [if_neg positive,
      Nat.max_eq_left (Nat.le_of_not_le (mt bound.2 positive)),
      UInt64.toNat_one]

variable {span : Span}

theorem isReadable_iff :
    span.IsReadable ↔ (span.wholeSeconds : Int) ≤ Saturating.highest := by
  unfold IsReadable wholeSeconds
  simp only [Saturating.highest, nanosPerSecond]
  omega

theorem IsReadable.wholeSeconds_le (readable : span.IsReadable) :
    (span.wholeSeconds : Int) ≤ Saturating.highest :=
  isReadable_iff.1 readable

/-- The seconds of a field are counted exactly unless they leave their word. -/
theorem toNat_headerSeconds
    (fits : span.seconds.toNat + (if 0 < span.nanos then 1 else 0) <
      UInt64.size) :
    span.headerSeconds.toNat = max 1 span.wholeSeconds := by
  rw [headerSeconds, toNat_max_one, wholeSeconds_eq]
  split at fits
  · rw [if_pos ‹_›, if_pos ‹_›, UInt64.toNat_add, UInt64.toNat_one,
      Nat.mod_eq_of_lt fits]
  · rw [if_neg ‹_›, if_neg ‹_›, UInt64.add_zero, Nat.add_zero]

theorem IsReadable.toNat_roundedUp (readable : span.IsReadable) :
    span.roundedUp.seconds.toNat = max 1 span.wholeSeconds := by
  have bound := readable.wholeSeconds_le
  simp only [Saturating.highest] at bound
  show (UInt64.ofNat (max 1 span.wholeSeconds)).toNat = _
  rw [UInt64.toNat_ofNat']
  omega

theorem IsReadable.isWhole_roundedUp (readable : span.IsReadable) :
    Peer.IsWhole span.roundedUp := by
  have bound := readable.wholeSeconds_le
  refine ⟨rfl, UInt64.lt_iff_toNat_lt.2 ?_, ?_⟩
  · rw [readable.toNat_roundedUp]
    exact Nat.lt_of_lt_of_le Nat.zero_lt_one (Nat.le_max_left 1 _)
  · rw [readable.toNat_roundedUp]
    simp only [Saturating.highest] at bound ⊢
    omega

/-- A lifetime that a clock may read is counted within a word. -/
theorem IsReadable.fits (readable : span.IsReadable) :
    span.seconds.toNat + (if 0 < span.nanos then 1 else 0) < UInt64.size := by
  have bound := readable.wholeSeconds_le
  rw [wholeSeconds_eq] at bound
  simp only [Saturating.highest, UInt64.size] at bound ⊢
  omega

/-- The seconds that a field gives are those of the lifetime rounded up. -/
theorem IsReadable.headerSeconds_roundedUp (readable : span.IsReadable) :
    span.roundedUp.headerSeconds = span.headerSeconds := by
  rw [readable.isWhole_roundedUp.headerSeconds]
  apply UInt64.toNat_inj.1
  rw [readable.toNat_roundedUp, toNat_headerSeconds readable.fits]

theorem IsReadable.exactNanos_roundedUp (readable : span.IsReadable) :
    span.roundedUp.exactNanos = max 1 span.wholeSeconds * nanosPerSecond := by
  rw [exactNanos, readable.toNat_roundedUp,
    show span.roundedUp.nanos = 0 from rfl, Nat.add_zero]

/-- Whole seconds are kept. -/
theorem roundedUp_of_isWhole (whole : Peer.IsWhole span) :
    span.roundedUp = span := by
  have positive := UInt64.lt_iff_toNat_lt.1 whole.positive
  rw [UInt64.toNat_zero] at positive
  rw [roundedUp, wholeSeconds_eq, whole.whole, if_neg (Nat.lt_irrefl 0),
    Nat.add_zero, Nat.max_eq_right positive, UInt64.ofNat_toNat,
    whole.eq_ofSeconds]

/-- No positive number of whole seconds is between a span and its rounding. -/
theorem IsReadable.roundedUp_le_iff
    (readable : span.IsReadable)
    {lifetime : Span}
    (whole : Peer.IsWhole lifetime) :
    span.roundedUp.exactNanos ≤ lifetime.exactNanos ↔
      span.exactNanos ≤ lifetime.exactNanos := by
  have positive := UInt64.lt_iff_toNat_lt.1 whole.positive
  have exact_ : lifetime.exactNanos =
      lifetime.seconds.toNat * nanosPerSecond := by
    rw [exactNanos, whole.whole, Nat.add_zero]
  rw [readable.exactNanos_roundedUp, exact_]
  rw [UInt64.toNat_zero] at positive
  unfold wholeSeconds nanosPerSecond
  omega

end Span

end QuotaRing

namespace QuotaRing.Peer

open QuotaRing.Http (IsFieldText)
open QuotaRing.Net (Endpoint)

namespace Command

/-- The command that arrives when a command is sent. -/
def roundedUp : Command → Command
  | .get key => .get key
  | .put key value lifetime => .put key value lifetime.roundedUp
  | .patch key change lifetime => .patch key change lifetime.roundedUp
  | .delete key => .delete key

/--
A command that can be sent to a node that takes objects of some size: its path
names the key, a clock may read its lifetime, and its body is not too large.
-/
structure IsSendable (command : Command) (maxObject : Nat) : Prop where
  named : command.key.text ≠ "." ∧ command.key.text ≠ ".."
  fits : ∀ lifetime body, command.payload? = some (lifetime, body) →
    lifetime.IsReadable ∧ body.length ≤ maxObject

@[simp]
theorem key_roundedUp (command : Command) :
    command.roundedUp.key = command.key := by
  cases command <;> simp only [roundedUp, key]

@[simp]
theorem method_roundedUp (command : Command) :
    command.roundedUp.method = command.method := by
  cases command <;> simp only [roundedUp, method]

theorem payload?_roundedUp (command : Command) :
    command.roundedUp.payload? =
      command.payload?.map fun payload => (payload.1.roundedUp, payload.2) := by
  cases command <;>
    simp only [roundedUp, payload?, Option.map_some, Option.map_none]

/-- An answer reports the same outcome, whatever the lifetime. -/
theorem outcomeOf_roundedUp
    (command : Command)
    (peer : Endpoint)
    (status : Nat)
    (body : List UInt8) :
    command.roundedUp.outcomeOf peer status body =
      command.outcomeOf peer status body := by
  cases command <;> simp only [roundedUp, outcomeOf]

theorem roundedUp_of_whole
    {command : Command}
    (whole : ∀ lifetime body, command.payload? = some (lifetime, body) →
      IsWhole lifetime) :
    command.roundedUp = command := by
  cases command with
  | get key => rfl
  | put key value lifetime =>
      exact congrArg (Command.put key value)
        (Span.roundedUp_of_isWhole (whole lifetime value rfl))
  | patch key change lifetime =>
      exact congrArg (Command.patch key change)
        (Span.roundedUp_of_isWhole (whole lifetime (Wire.encode change) rfl))
  | delete key => rfl

namespace IsSendable

variable
    {command : Command}
    {maxObject : Nat}
    (sendable : command.IsSendable maxObject)

include sendable

/-- What arrives has a lifetime in whole seconds. -/
theorem travels : command.roundedUp.Travels maxObject := by
  refine ⟨?named, ?whole⟩
  case named =>
    rw [key_roundedUp]
    exact sendable.named
  case whole =>
    intro lifetime body carries
    rw [payload?_roundedUp] at carries
    rcases Option.map_eq_some_iff.1 carries with ⟨sent, payload, same⟩
    cases same
    have fits := sendable.fits sent.1 sent.2 payload
    exact ⟨fits.1.isWhole_roundedUp, fits.2⟩

/-- The fields give no more of a lifetime than what arrives of it. -/
theorem fields_roundedUp (name trace : String) :
    command.roundedUp.fields name trace = command.fields name trace := by
  rw [fields, fields, payload?_roundedUp]
  cases carries : command.payload? with
  | none => rfl
  | some payload =>
      have readable := (sendable.fits payload.1 payload.2 carries).1
      simp only [Option.map_some, readable.headerSeconds_roundedUp]

theorem outgoing_roundedUp
    (peer : Endpoint)
    (name trace : String) :
    command.roundedUp.outgoing peer name trace =
      command.outgoing peer name trace := by
  have bodies : command.roundedUp.payload?.map Prod.snd =
      command.payload?.map Prod.snd := by
    rw [payload?_roundedUp, Option.map_map]
    rfl
  rw [outgoing, outgoing, key_roundedUp, method_roundedUp, bodies,
    sendable.fields_roundedUp]

end IsSendable

end Command

/-- A request is sent to every peer that a uri names, and to no other. -/
theorem exists_request_iff
    (command : Command)
    (peer : Endpoint)
    {name trace : String}
    (fits : IsFieldText name)
    (traced : IsFieldText trace) :
    (∃ outgoing, command.request peer name trace = .ok outgoing) ↔
      (originOf? peer).isSome = true := by
  cases reachable : (originOf? peer).isSome with
  | true => exact iff_of_true ⟨_, request_eq reachable command fits traced⟩ rfl
  | false =>
      have unknown : (originOf? peer).isNone = true :=
        Option.isSome_eq_false_iff.1 reachable
      refine iff_of_false ?_ Bool.false_ne_true
      rintro ⟨outgoing, sent⟩
      rw [Command.request, if_pos unknown] at sent
      cases sent

end QuotaRing.Peer

namespace QuotaRing.Station

open QuotaRing.Http (IsFieldText)
open QuotaRing.Net (Endpoint Ip)
open QuotaRing.Peer (Command Outgoing)

/--
What a station makes of the request for a command, and the sender of its answer,
when they go by what arrives of the command.
-/
structure CarriesOut
    (station : Station)
    (caller : Ip)
    (peer : Endpoint)
    (outgoing : Outgoing)
    (sent arriving : Command) :
    Prop where
  /-- The path names the object with the key. -/
  routes : ∃ segment,
    Service.Resource.ofSegments? outgoing.received.segments =
        some (.object segment) ∧
      Text.Utf8.decode? (Http.Percent.decode segment) = some sent.key.text
  parses :
    Command.ofRequest outgoing.received.method sent.key.text
        outgoing.received.headers outgoing.received.body
        station.node.maxObject =
      .ok arriving
  /-- The table is left as the command leaves it. -/
  stores : ∀ trace,
    (station.serve trace caller outgoing.received).2 =
      station.withTable
        (arriving.run station.now station.node.site.table).2
  /-- The answer reports the outcome of the command. -/
  reports : ∀ trace,
    sent.outcomeOf peer
        (station.serve trace caller outgoing.received).1.status
        (station.serve trace caller outgoing.received).1.content.toBytes =
      .ok (arriving.run station.now station.node.site.table).1

variable
    {command : Command}
    {name trace : String}
    {caller : Ip}

/-- The request for a command does to a table what the arriving command does. -/
theorem carriesOut_outgoing
    (station : Station)
    (fits : IsFieldText name)
    (nonblank : Text.isBlankText name = false)
    (sendable : command.IsSendable station.node.maxObject)
    (addressable : station.node.maxObject <
      Wire.capacity Wire.Width.eight.bytes)
    (admits : station.node.access.admits caller = true)
    (peer : Endpoint) :
    station.CarriesOut caller peer (command.outgoing peer name trace) command
      command.roundedUp := by
  have travels := sendable.travels
  rw [← sendable.outgoing_roundedUp]
  have served : ∀ local_,
      station.serve local_ caller
          (command.roundedUp.outgoing peer name trace).received =
        ((command.roundedUp.run station.now station.node.site.table).1.response,
          station.withTable
            (command.roundedUp.run station.now station.node.site.table).2) :=
    station.serve_eq fits nonblank travels addressable admits rfl rfl rfl rfl
  refine ⟨?routes, ?parses, ?stores, ?reports⟩
  case routes =>
    refine ⟨_, Peer.resource_of_uri travels.named rfl, ?_⟩
    rw [Peer.decode_segmentOf, Command.key_roundedUp]
  case parses =>
    rw [← Command.key_roundedUp]
    exact Peer.ofRequest_fields fits nonblank travels addressable
  case stores =>
    intro local_
    rw [served]
  case reports =>
    intro local_
    rw [served, ← Command.outcomeOf_roundedUp]
    exact Peer.outcomeOf_response _ _ _ _

/--
A command that is sent to a station that admits the caller is carried out there
as it would be at home: by request to any peer that a uri names, with the
lifetime rounded up, and unchanged if the lifetime is whole.
-/
theorem carries_out_as_at_home
    (station : Station)
    (fits : IsFieldText name)
    (nonblank : Text.isBlankText name = false)
    (traced : IsFieldText trace)
    (sendable : command.IsSendable station.node.maxObject)
    (addressable : station.node.maxObject <
      Wire.capacity Wire.Width.eight.bytes)
    (admits : station.node.access.admits caller = true)
    (peer : Endpoint) :
    ((∃ outgoing, command.request peer name trace = .ok outgoing) ↔
      (Peer.originOf? peer).isSome = true) ∧
    (∀ outgoing, command.request peer name trace = .ok outgoing →
      station.CarriesOut caller peer outgoing command command.roundedUp) ∧
    ((∀ lifetime body, command.payload? = some (lifetime, body) →
        Peer.IsWhole lifetime) →
      command.roundedUp = command) := by
  have sent := Peer.exists_request_iff command peer fits traced
  refine ⟨sent, ?carried, Command.roundedUp_of_whole⟩
  intro outgoing request
  have reachable := sent.1 ⟨outgoing, request⟩
  rw [Peer.request_eq reachable command fits traced] at request
  cases request
  exact station.carriesOut_outgoing fits nonblank sendable addressable admits
    peer

/-- A patch for a second and a half arrives as one for two seconds. -/
theorem carries_out_as_at_home_patch :
    let station := Fleet.openStation (.v4 0x7f000001 8410) []
    let peer := station.node.site.view.self
    let patch (lifetime : Span) : Command :=
      .patch ⟨"a b", by decide⟩ (.increment 2) lifetime
    ∃ outgoing,
      (patch ⟨1, 500000000, by decide⟩).request peer "node" "t1" =
          .ok outgoing ∧
        station.CarriesOut .loopback peer outgoing
          (patch ⟨1, 500000000, by decide⟩) (patch (.ofSeconds 2)) := by
  intro station peer patch
  have named : IsFieldText "node" := by decide
  have nonblank : Text.isBlankText "node" = false := by decide
  have traced : IsFieldText "t1" := by decide
  have sendable : (patch ⟨1, 500000000, by decide⟩).IsSendable
      station.node.maxObject := by
    refine ⟨by decide, ?_⟩
    rintro lifetime body ⟨⟩
    exact ⟨by decide, by decide⟩
  have addressable : station.node.maxObject <
      Wire.capacity Wire.Width.eight.bytes := by
    decide
  have admits : station.node.access.admits .loopback = true := rfl
  have reachable : (Peer.originOf? peer).isSome = true := rfl
  have rounded : (patch ⟨1, 500000000, by decide⟩).roundedUp =
      patch (.ofSeconds 2) := by
    decide +kernel
  have carried := station.carries_out_as_at_home named nonblank traced sendable
    addressable admits peer
  rcases carried.1.2 reachable with ⟨outgoing, sent⟩
  refine ⟨outgoing, sent, ?_⟩
  rw [← rounded]
  exact carried.2.1 outgoing sent

end QuotaRing.Station
