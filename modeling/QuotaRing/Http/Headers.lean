import QuotaRing.Text.Utf8

/-!
# Header fields

The fields of a request are a list of names and values in the order in which
they were sent.  Names are compared without regard to case; of several fields
of one name the first counts.
-/

namespace QuotaRing.Http

/-- Names and values in the order in which they were sent. -/
abbrev Headers : Type :=
  List (String × List UInt8)

def Headers.first? (headers : Headers) (name : String) : Option (List UInt8) :=
  (headers.find? fun field => field.1.toLower == name.toLower).map Prod.snd

/-- Whether a byte may stand in a value that is read as text. -/
def isVisible (byte : UInt8) : Bool :=
  (0x20 ≤ byte && byte < 0x7f) || byte == 0x09

/-- Whether a byte may stand in a value at all. -/
def isAllowed (byte : UInt8) : Bool :=
  (0x20 ≤ byte && byte != 0x7f) || byte == 0x09

/-- The text of a value, if all its bytes are visible. -/
def visibleText? (value : List UInt8) : Option String :=
  if value.all isVisible then
    some (String.ofList (value.map fun byte => Char.ofNat byte.toNat))
  else none

def Headers.text? (headers : Headers) (name : String) : Option String :=
  (headers.first? name).bind visibleText?

end QuotaRing.Http
