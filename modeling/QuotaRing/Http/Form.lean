import QuotaRing.Http.Percent

/-!
# Form-encoded queries

A query is a list of names and values joined by ampersands.  A plus sign
stands for a space, and bytes that are no UTF-8 are replaced.
-/

namespace QuotaRing.Http.Form

def splitAt (mark : UInt8) (bytes : List UInt8) : List (List UInt8) :=
  match bytes with
  | [] => [[]]
  | first :: rest =>
      if first == mark then [] :: splitAt mark rest
      else
        match splitAt mark rest with
        | [] => [[first]]
        | part :: parts => (first :: part) :: parts

/-- The text that a name or a value stands for. -/
def decode (bytes : List UInt8) : String :=
  let spaced := bytes.map fun byte => if byte == 0x2b then 0x20 else byte
  String.ofList (Text.Utf8.lenient (Percent.decode spaced))

/-- The name and the value of a pair; without an equals sign it is all name. -/
def pair (bytes : List UInt8) : String × String :=
  let name := bytes.takeWhile (· != 0x3d)
  (decode name, decode (bytes.drop (name.length + 1)))

def pairs (query : List UInt8) : List (String × String) :=
  ((splitAt 0x26 query).filter (!·.isEmpty)).map pair

end QuotaRing.Http.Form
