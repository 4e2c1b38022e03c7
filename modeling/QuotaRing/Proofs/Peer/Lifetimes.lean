import QuotaRing.Proofs.Peer.Hearing
import QuotaRing.Proofs.Store.History

/-!
# Lifetimes on their way

Whoever sends a write counts its lifetime in seconds, in a word without a sign;
whoever receives it reads a number with a sign.  A node keeps what is written for
any lifetime, so it should not matter who owns the key.  Main statement: a lifetime
arrives, no shorter than it was and at most a started second longer, and a write
that a peer carries out lasts there as long as at home, exactly if a clock may
read the lifetime.
-/

namespace QuotaRing

namespace Span

open QuotaRing.Http (Headers)

/-- The value of the field that gives a lifetime. -/
def headerValue (span : Span) : List UInt8 :=
  Text.Utf8.encode (Text.Decimal.render span.headerSeconds.toNat)

/-- What is read of a lifetime, wherever it is given, if nothing of it is lost. -/
structure ArrivesAs (span arriving : Span) : Prop where
  accepted : ∀ headers : Headers,
    headers.first? Peer.lifetimeField = some span.headerValue →
      Peer.lifetime headers = .ok arriving
  noShorter : span.exactNanos ≤ arriving.exactNanos
  positive : nanosPerSecond ≤ arriving.exactNanos
  /-- Less than a second is added, unless one second is the least. -/
  close : nanosPerSecond < arriving.exactNanos →
    arriving.exactNanos < span.exactNanos + nanosPerSecond

end Span

namespace Station

open QuotaRing.Net (Endpoint Ip)
open QuotaRing.Peer (Command Outgoing)

/--
Whether a station answers the request for a write as the write is answered at
home, and keeps what is written no less long.
-/
structure Honours
    (station : Station)
    (caller : Ip)
    (peer : Endpoint)
    (outgoing : Outgoing)
    (command : Command) :
    Prop where
  answers : ∀ trace,
    command.outcomeOf peer
        (station.serve trace caller outgoing.received).1.status
        (station.serve trace caller outgoing.received).1.content.toBytes =
      .ok (command.run station.now station.node.site.table).1
  keeps : ∀ trace, ∃ abroad atHome : Store.Entry,
    (station.serve trace caller outgoing.received).2.node.site.table.find?
        command.key = some abroad ∧
      (command.run station.now station.node.site.table).2.find?
        command.key = some atHome ∧
      abroad.value = atHome.value ∧ atHome.expiresAt ≤ abroad.expiresAt

end Station

/--
Whether a lifetime is safe with peers: its seconds are counted within their word,
it is read without loss, and a write for so long can be left to any peer that
takes the key and the value.
-/
structure Span.IsHonoured (span : Span) : Prop where
  counted : span.seconds.toNat + (if 0 < span.nanos then 1 else 0) < UInt64.size
  arrives : ∃ arriving, span.ArrivesAs arriving
  written : ∀ (station : Station) (command : Peer.Command) (body : List UInt8)
      (name trace : String) (caller : Net.Ip) (peer : Net.Endpoint)
      (outgoing : Peer.Outgoing),
    command.payload? = some (span, body) →
    (command.key.text ≠ "." ∧ command.key.text ≠ "..") →
    body.length ≤ station.node.maxObject →
    station.node.maxObject < Wire.capacity Wire.Width.eight.bytes →
    Http.IsFieldText name → Text.isBlankText name = false →
    Http.IsFieldText trace →
    station.node.access.admits caller = true →
    command.request peer name trace = .ok outgoing →
      station.Honours caller peer outgoing command

/-! ## Lifetimes that are read -/

namespace Span

variable {span : Span}

theorem exactMillis_eq (span : Span) :
    span.exactMillis = span.exactNanos / 1000000 := by
  rw [exactMillis, exactNanos]
  unfold nanosPerSecond
  omega

theorem exactMillis_le_of_exactNanos_le
    {longer : Span}
    (le : span.exactNanos ≤ longer.exactNanos) :
    span.exactMillis ≤ longer.exactMillis := by
  rw [exactMillis_eq, exactMillis_eq]
  exact Nat.div_le_div_right le

theorem one_le_toNat_headerSeconds (span : Span) :
    1 ≤ span.headerSeconds.toNat := by
  rw [headerSeconds, toNat_max_one]
  exact Nat.le_max_left 1 _

/-- A lifetime is read wherever its seconds are those of a signed number. -/
theorem lifetime_of_headerValue
    {headers : Http.Headers}
    (given : headers.first? Peer.lifetimeField = some span.headerValue) :
    Peer.lifetime headers =
      if (span.headerSeconds.toNat : Int) ≤ Saturating.highest then
        .ok (ofSeconds span.headerSeconds)
      else .error .lifetimeNotPositive := by
  rw [Peer.lifetime, given]
  dsimp only
  rw [headerValue, (Peer.IsWhole.isFieldText span).visibleText?_encode,
    Option.bind_some,
    Peer.lifetimeOfText?_render span.one_le_toNat_headerSeconds,
    UInt64.ofNat_toNat]
  by_cases bound : (span.headerSeconds.toNat : Int) ≤ Saturating.highest
  · rw [if_pos bound, if_pos bound]
  · rw [if_neg bound, if_neg bound]

theorem IsReadable.arrivesAs (readable : span.IsReadable) :
    span.ArrivesAs span.roundedUp where
  accepted headers given := by
    have whole := readable.isWhole_roundedUp
    rw [lifetime_of_headerValue given, ← readable.headerSeconds_roundedUp,
      whole.headerSeconds, if_pos whole.fits, whole.eq_ofSeconds]
  noShorter :=
    (readable.roundedUp_le_iff readable.isWhole_roundedUp).1 (Nat.le_refl _)
  positive := by
    rw [readable.exactNanos_roundedUp]
    exact Nat.le_mul_of_pos_left _ (Nat.le_max_left 1 _)
  close := by
    rw [readable.exactNanos_roundedUp, wholeSeconds]
    unfold nanosPerSecond
    omega

/-- A lifetime that is counted within its word and read is one of a clock. -/
theorem ArrivesAs.isReadable
    {arriving : Span}
    (arrives : span.ArrivesAs arriving)
    (counted : span.seconds.toNat + (if 0 < span.nanos then 1 else 0) <
      UInt64.size) :
    span.IsReadable := by
  have given : Http.Headers.first? [(Peer.lifetimeField, span.headerValue)]
      Peer.lifetimeField = some span.headerValue :=
    Http.Headers.first?_cons_self [] _ _
  have read := lifetime_of_headerValue given
  rw [arrives.accepted _ given] at read
  split at read
  · next bound =>
      rw [toNat_headerSeconds counted] at bound
      rw [isReadable_iff]
      omega
  · cases read

theorem IsHonoured.isReadable (honoured : span.IsHonoured) : span.IsReadable := by
  rcases honoured.arrives with ⟨arriving, arrives⟩
  exact arrives.isReadable honoured.counted

end Span

/-! ## Writes that last -/

theorem Store.Entry.value_written
    (value : List UInt8)
    (now : Int64)
    (lifetime : Span) :
    (Entry.written value now lifetime).value = value :=
  rfl

/-- What is written for longer lives longer, unless neither ever ends. -/
theorem Store.Entry.expiresAt_written_le
    (value : List UInt8)
    (now : Int64)
    {shorter longer : Span}
    (le : shorter.exactNanos ≤ longer.exactNanos) :
    (Entry.written value now shorter).expiresAt ≤
      (Entry.written value now longer).expiresAt := by
  have millis := Span.exactMillis_le_of_exactNanos_le le
  rw [Int64.le_iff_toInt_le, toInt_expiresAt_written, toInt_expiresAt_written]
  omega

/-- A write leaves the same value when its lifetime is rounded up. -/
theorem Peer.Command.exists_find?_run
    {command : Command}
    {span : Span}
    {body : List UInt8}
    (carries : command.payload? = some (span, body))
    (now : Int64)
    (table : Store.Table) :
    ∃ value,
      (command.run now table).2.find? command.key =
          some (.written value now span) ∧
        (command.roundedUp.run now table).2.find? command.key =
          some (.written value now span.roundedUp) := by
  cases command with
  | get key => cases carries
  | put key value lifetime =>
      cases carries
      refine ⟨body, ?_, ?_⟩
      · exact table.find?_put_self now key body span
      · exact table.find?_put_self now key body span.roundedUp
  | patch key change lifetime =>
      cases carries
      let value := (change.apply (table.get? now key)).value
      refine ⟨value, ?_, ?_⟩
      · exact table.find?_put_self now key value span
      · exact table.find?_put_self now key value span.roundedUp
  | delete key => cases carries

/-- A write that is carried out with its lifetime rounded up is honoured. -/
theorem Station.CarriesOut.honours
    {station : Station}
    {command : Peer.Command}
    {span : Span}
    {body : List UInt8}
    {caller : Net.Ip}
    {peer : Net.Endpoint}
    {outgoing : Peer.Outgoing}
    (carried : station.CarriesOut caller peer outgoing command command.roundedUp)
    (carries : command.payload? = some (span, body))
    (noShorter : span.exactNanos ≤ span.roundedUp.exactNanos) :
    station.Honours caller peer outgoing command where
  answers trace := by
    rw [carried.reports trace, Peer.Command.run_roundedUp]
  keeps trace := by
    rcases Peer.Command.exists_find?_run carries station.now
        station.node.site.table with
      ⟨value, atHome, abroad⟩
    have sameValue := (Store.Entry.value_written value station.now
      span.roundedUp).trans (Store.Entry.value_written value station.now span).symm
    rw [carried.stores trace]
    exact ⟨_, _, abroad, atHome, sameValue,
      Store.Entry.expiresAt_written_le value station.now noShorter⟩

/--
A lifetime arrives without loss, and a write for so long may be left to a peer,
exactly if a clock may read the lifetime.
-/
theorem Span.isHonoured_iff_isReadable (span : Span) :
    span.IsHonoured ↔ span.IsReadable := by
  constructor
  · exact IsHonoured.isReadable
  · intro readable
    have arrives := readable.arrivesAs
    refine ⟨readable.fits, ⟨_, arrives⟩, ?_⟩
    intro station command body name trace caller peer outgoing carries named few
      addressable fits nonblank traced admits request
    have sendable : command.IsSendable station.node.maxObject := by
      refine ⟨named, fun lifetime sent payload => ?_⟩
      cases carries.symm.trans payload
      exact ⟨readable, few⟩
    have reachable := (Peer.exists_request_iff command peer fits traced).1
      ⟨outgoing, request⟩
    rw [Peer.request_eq reachable command fits traced] at request
    cases request
    exact (station.carriesOut_outgoing fits nonblank sendable addressable admits
      peer).honours carries arrives.noShorter

/--
What is written for two to the 63 seconds lives at home to the last reading of the
clock, but a peer refuses to write it; and the longest span of all is counted as
one second.
-/
theorem Span.long_lifetimes_are_lost :
    let long : Span := ofSeconds 0x8000000000000000
    let longest : Span := ⟨0xffffffffffffffff, 999999999, by decide⟩
    let key : Store.Key := ⟨"k", by decide⟩
    let put : Peer.Command := .put key [118] long
    let station := Fleet.openStation (.v4 0x7f000001 8410) []
    let request := (put.outgoing station.node.site.view.self "node" "t").received
    put.request station.node.site.view.self "node" "t" =
        .ok (put.outgoing station.node.site.view.self "node" "t") ∧
      (put.run 0 .empty).2.get? 0x7ffffffffffffffe key = some [118] ∧
      (station.serve "t" .loopback request).1.status = 400 ∧
      Peer.lifetime [(Peer.lifetimeField, longest.headerValue)] =
        .ok (ofSeconds 1) ∧
      ¬ long.IsHonoured ∧ ¬ longest.IsHonoured := by
  intro long longest key put station request
  have named : Http.IsFieldText "node" := by decide
  have traced : Http.IsFieldText "t" := by decide
  refine ⟨Peer.request_eq rfl put named traced, by decide +kernel,
    by decide +kernel, by decide +kernel, ?_, ?_⟩
  · intro honoured
    exact absurd honoured.isReadable (by decide)
  · intro honoured
    exact absurd honoured.isReadable (by decide)

end QuotaRing
