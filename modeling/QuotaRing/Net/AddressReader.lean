import QuotaRing.Net.Endpoint

/-!
# Reading addresses and endpoints

Octets are decimal without leading zeros.  Groups are up to four hexadecimal
digits; one double colon stands for the groups left out, at least one; the
last two groups may be written as octets.  Ports and zones are decimal with
any number of leading zeros.
-/

namespace QuotaRing.Net

/-- A reader of a value at the start of a text, which also gives the rest. -/
abbrev Reader (α : Type) : Type :=
  List Char → Option (α × List Char)

namespace Reader

def character (expected : Char) : Reader Unit
  | [] => none
  | first :: rest => if first = expected then some ((), rest) else none

/-- The value of digits, the first of them the most significant. -/
def value (base : Nat) (digits : List Nat) : Nat :=
  digits.foldl (fun number digit => base * number + digit) 0

def span
    (digitValue? : Char → Option Nat)
    (text : List Char) :
    List Nat × List Char :=
  match text with
  | [] => ([], [])
  | first :: rest =>
      match digitValue? first with
      | none => ([], text)
      | some digit =>
          let (digits, rest) := span digitValue? rest
          (digit :: digits, rest)

def decimal (highest : Nat) : Reader Nat := fun text =>
  let (digits, rest) := span Text.Decimal.digitValue? text
  let number := value 10 digits
  if digits.isEmpty ∨ highest < number then none else some (number, rest)

/-- Read an octet: at most three digits without a leading zero. -/
def octet : Reader Nat := fun text =>
  let (digits, rest) := span Text.Decimal.digitValue? text
  let number := value 10 digits
  if digits.isEmpty ∨ 3 < digits.length ∨ 255 < number ∨
      (1 < digits.length ∧ digits.head? = some 0) then none
  else some (number, rest)

/-- Read a group of one to four hexadecimal digits. -/
def group : Reader Nat := fun text =>
  let (digits, rest) := span Text.Hexadecimal.digitValue? text
  if digits.isEmpty ∨ 4 < digits.length then none
  else some (value 16 digits, rest)

def octets : Reader (BitVec 32) := fun text => do
  let (a, text) ← octet text
  let (_, text) ← character '.' text
  let (b, text) ← octet text
  let (_, text) ← character '.' text
  let (c, text) ← octet text
  let (_, text) ← character '.' text
  let (d, text) ← octet text
  some (BitVec.ofNat 32 (((a * 256 + b) * 256 + c) * 256 + d), text)

/-- Read what follows a colon, which the first of several has not before it. -/
def separated
    {α : Type}
    (isFirst : Bool)
    (reader : Reader α) :
    Reader α := fun text =>
  if isFirst then reader text
  else do
    let (_, text) ← character ':' text
    reader text

/--
Read as many groups as there are, up to `limit`, of which the last two may be
octets: the groups, whether octets were among them, and the rest.
-/
def groups
    (limit : Nat)
    (isFirst : Bool)
    (text : List Char) :
    List Nat × Bool × List Char :=
  match limit with
  | 0 => ([], false, text)
  | left + 1 =>
      match (if 0 < left then separated isFirst octets text else none) with
      | some (bits, rest) =>
          ([bits.toNat / 0x10000, bits.toNat % 0x10000], true, rest)
      | none =>
          match separated isFirst group text with
          | none => ([], false, text)
          | some (first, rest) =>
              let (others, withOctets, rest) := groups left false rest
              (first :: others, withOctets, rest)

def ipv6 : Reader (BitVec 128) := fun text =>
  let (front, withOctets, text) := groups 8 true text
  if front.length = 8 then
    some (BitVec.ofNat 128 (value 0x10000 front), text)
  else if withOctets then none
  else do
    let (_, text) ← character ':' text
    let (_, text) ← character ':' text
    let (back, _, text) := groups (7 - front.length) true text
    let zeros := List.replicate (8 - front.length - back.length) 0
    some (BitVec.ofNat 128 (value 0x10000 (front ++ zeros ++ back)), text)

def zone (text : List Char) : Nat × List Char :=
  match (character '%' text).bind fun (_, rest) => decimal 0xffffffff rest with
  | some found => found
  | none => (0, text)

def port : Reader UInt16 := fun text => do
  let (_, text) ← character ':' text
  let (number, text) ← decimal 0xffff text
  some (UInt16.ofNat number, text)

def endpointV4 : Reader Endpoint := fun text => do
  let (bits, text) ← octets text
  let (port, text) ← port text
  some (.v4 bits port, text)

/-- Read a version six endpoint, whose address stands in brackets. -/
def endpointV6 : Reader Endpoint := fun text => do
  let (_, text) ← character '[' text
  let (bits, text) ← ipv6 text
  let (zone, text) := zone text
  let (_, text) ← character ']' text
  let (port, text) ← port text
  some (.v6 bits port (UInt32.ofNat zone), text)

def whole {α : Type} (reader : Reader α) (text : String) : Option α :=
  match reader text.toList with
  | some (value, []) => some value
  | _ => none

end Reader

def Ip.ofText? (text : String) : Option Ip :=
  ((Reader.whole Reader.octets text).map Ip.v4).or
    ((Reader.whole Reader.ipv6 text).map Ip.v6)

def Endpoint.ofText? (text : String) : Option Endpoint :=
  (Reader.whole Reader.endpointV4 text).or
    (Reader.whole Reader.endpointV6 text)

end QuotaRing.Net
