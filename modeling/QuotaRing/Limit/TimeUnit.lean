import QuotaRing.Text.Spelling
import QuotaRing.Time.Span
import QuotaRing.Wire.Codec

/-!
# Window lengths

The four lengths that a sliding window can have.
-/

namespace QuotaRing.Limit

/-- The length of a sliding window. -/
inductive TimeUnit where
  | second
  | minute
  | hour
  | day
  deriving DecidableEq, Repr

namespace TimeUnit

/-- All units in the order of their numbers on the wire. -/
def all : List TimeUnit :=
  [second, minute, hour, day]

/-- The name of a unit in configurations and reports. -/
def name : TimeUnit → String
  | second => "SECOND"
  | minute => "MINUTE"
  | hour => "HOUR"
  | day => "DAY"

def seconds : TimeUnit → UInt64
  | second => 1
  | minute => 60
  | hour => 60 * 60
  | day => 24 * 60 * 60

def span (unit : TimeUnit) : Span :=
  Span.ofSeconds unit.seconds

def millis (unit : TimeUnit) : Int64 :=
  unit.span.millis

def named? (text : String) : Option TimeUnit :=
  all.find? fun unit => unit.name == text

def unknownMessage (text : String) : String :=
  "Invalid time unit: " ++ text

/-- The unit a text spells, in any case and between blanks. -/
def read (text : String) : Except String TimeUnit :=
  match Text.spelled? all name text with
  | some unit => .ok unit
  | none => .error (unknownMessage text)

theorem mem_all (unit : TimeUnit) : unit ∈ all := by
  cases unit <;> decide

instance : Wire.Coded TimeUnit where
  encode := Wire.encodeIndex all
  decodePrefix := Wire.decodeIndex all

end TimeUnit

end QuotaRing.Limit
