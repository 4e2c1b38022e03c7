import QuotaRing.Text.Decimal

/-!
# Instants as calendar time

An instant is a number of seconds since the start of 1970 in UTC and a number
of nanoseconds.  Clock readings in milliseconds become instants; those the
calendar does not reach become the last instant it has.  Instants are written
as RFC 3339 dates with the shortest of no, three, six or nine decimals.
-/

namespace QuotaRing

/-- Seconds since the start of 1970 and the nanoseconds that follow them. -/
structure Instant where
  seconds : Int
  nanos : Nat
  deriving DecidableEq

namespace Instant

/-- The first clock reading of the calendar, in milliseconds. -/
def firstMillis : Int := -8334601228800000

/-- The last clock reading of the calendar, in milliseconds. -/
def lastMillis : Int := 8210266876799999

/-- The last instant of the calendar. -/
def last : Instant where
  seconds := 8210266876799
  nanos := 999999999

/-- The instant of a clock reading, or the last one there is. -/
def ofMillis (millis : Int64) : Instant :=
  if firstMillis ≤ millis.toInt ∧ millis.toInt ≤ lastMillis then
    { seconds := millis.toInt.fdiv 1000
      nanos := (millis.toInt.fmod 1000).toNat * 1000000 }
  else
    last

def millis (instant : Instant) : Int :=
  instant.seconds * 1000 + instant.nanos / 1000000

/-- A day of the Gregorian calendar. -/
structure Date where
  year : Int
  month : Nat
  day : Nat
  deriving DecidableEq

/--
The date of a day counted from the start of 1970.  Years are counted from
March, so that the day added in a leap year is the last of its year, in eras
of 400 years.
-/
def Date.ofDay (day : Int) : Date :=
  let shifted := day + 719468
  let era := shifted.fdiv 146097
  let dayOfEra := (shifted.fmod 146097).toNat
  let yearOfEra :=
    (dayOfEra - dayOfEra / 1460 + dayOfEra / 36524 - dayOfEra / 146096) / 365
  let dayOfYear :=
    dayOfEra - (365 * yearOfEra + yearOfEra / 4 - yearOfEra / 100)
  let marchMonth := (5 * dayOfYear + 2) / 153
  let month := if marchMonth < 10 then marchMonth + 3 else marchMonth - 9
  { year := yearOfEra + era * 400 + if month ≤ 2 then 1 else 0
    month := month
    day := dayOfYear - (153 * marchMonth + 2) / 5 + 1 }

/-- The decimal digits of a number, padded with zeros to a width. -/
def padded (width number : Nat) : String :=
  let digits := Text.Decimal.digits number
  String.ofList (List.replicate (width - digits.length) '0' ++ digits)

/-- A year in four digits; others take a sign and at least four digits. -/
def renderYear (year : Int) : String :=
  if 0 ≤ year ∧ year ≤ 9999 then padded 4 year.toNat
  else if year < 0 then "-" ++ padded 4 year.natAbs
  else "+" ++ padded 4 year.natAbs

/-- The decimals of a second, in the shortest group of three that is exact. -/
def renderNanos (nanos : Nat) : String :=
  if nanos == 0 then ""
  else if nanos % 1000000 == 0 then "." ++ padded 3 (nanos / 1000000)
  else if nanos % 1000 == 0 then "." ++ padded 6 (nanos / 1000)
  else "." ++ padded 9 nanos

/-- An instant as an RFC 3339 date that ends in the given name of UTC. -/
def render (instant : Instant) (utc : String) : String :=
  let date := Date.ofDay (instant.seconds.fdiv 86400)
  let second := (instant.seconds.fmod 86400).toNat
  renderYear date.year ++ "-" ++ padded 2 date.month ++ "-" ++
    padded 2 date.day ++ "T" ++ padded 2 (second / 3600) ++ ":" ++
    padded 2 (second / 60 % 60) ++ ":" ++ padded 2 (second % 60) ++
    renderNanos instant.nanos ++ utc

/-- The form in which an instant stands in JSON. -/
def renderZulu (instant : Instant) : String :=
  instant.render "Z"

/-- The form in which an instant stands in messages. -/
def renderOffset (instant : Instant) : String :=
  instant.render "+00:00"

end Instant

end QuotaRing
