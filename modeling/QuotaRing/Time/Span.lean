import QuotaRing.Arith.Saturating

/-!
# Spans of time

A span is a number of whole seconds and a number of nanoseconds below one
second.  Clocks count milliseconds, so a span is measured by the whole
milliseconds it holds, at most the greatest clock reading.
-/

namespace QuotaRing

def nanosPerSecond : Nat := 1000000000

/-- A length of time with nanosecond resolution. -/
structure Span where
  seconds : UInt64
  nanos : Nat
  nanos_lt : nanos < nanosPerSecond := by decide
  deriving DecidableEq

namespace Span

def ofSeconds (seconds : UInt64) : Span where
  seconds := seconds
  nanos := 0

/-- Seconds and any number of nanoseconds, whole seconds of which are carried. -/
def ofParts (seconds : UInt64) (nanos : Nat) : Span where
  seconds := seconds + (nanos / nanosPerSecond).toUInt64
  nanos := nanos % nanosPerSecond
  nanos_lt := Nat.mod_lt _ (by decide)

def ofMillis (millis : Nat) : Span where
  seconds := (millis / 1000).toUInt64
  nanos := millis % 1000 * 1000000
  nanos_lt := by
    have := Nat.mod_lt millis (show 0 < 1000 by decide)
    unfold nanosPerSecond
    omega

/-- The whole milliseconds of a span as an exact number. -/
def exactMillis (span : Span) : Nat :=
  span.seconds.toNat * 1000 + span.nanos / 1000000

/-- The whole milliseconds of a span, at most the greatest clock reading. -/
def millis (span : Span) : Int64 :=
  Saturating.saturate span.exactMillis

/--
The seconds by which a span is named in a header: a started second counts as
a whole one, and the least is one.
-/
def headerSeconds (span : Span) : UInt64 :=
  max 1 (span.seconds + if 0 < span.nanos then 1 else 0)

end Span

/-- What a settable clock reads after it has been moved on by a span. -/
def clockAfter (now : Int64) (span : Span) : Int64 :=
  now + span.millis

end QuotaRing
