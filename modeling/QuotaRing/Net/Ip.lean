import QuotaRing.Text.Decimal
import QuotaRing.Text.Hexadecimal

/-!
# Internet addresses

An address of version four has 32 bits and one of version six has 128.  The
addresses of version six that stand for one of version four, the mapped ones,
have it as their canonical form.  An address of version six is written in
eight groups, the longest run of zero groups left out.
-/

namespace QuotaRing.Net

/-- An internet address of either version. -/
inductive Ip where
  | v4 (bits : BitVec 32)
  | v6 (bits : BitVec 128)
  deriving DecidableEq, Repr

namespace Ip

/-- The version four address with the given octets. -/
def ofOctets (a b c d : Nat) : Ip :=
  .v4 (BitVec.ofNat 32 (((a * 256 + b) * 256 + c) * 256 + d))

def loopback : Ip :=
  ofOctets 127 0 0 1

/-- The bits of the version four address that an address is mapped from. -/
def mapped? (bits : BitVec 128) : Option (BitVec 32) :=
  if bits.toNat / 0x100000000 = 0xffff then some (bits.setWidth 32) else none

/-- The version four address for a mapped one, and else the address itself. -/
def canonical : Ip → Ip
  | .v4 bits => .v4 bits
  | .v6 bits =>
      match mapped? bits with
      | some inner => .v4 inner
      | none => .v6 bits

/-- Whether an address is the one that names no host of its version. -/
def isUnspecified : Ip → Bool
  | .v4 bits => bits == 0
  | .v6 bits => bits == 0

/-- A number whose order is that of addresses, version four first. -/
def rank : Ip → Nat
  | .v4 bits => bits.toNat
  | .v6 bits => 0x100000000 + bits.toNat

theorem rank_injective {left right : Ip} (same : left.rank = right.rank) :
    left = right := by
  cases left with
  | v4 left =>
      cases right with
      | v4 right => exact congrArg v4 (BitVec.eq_of_toNat_eq same)
      | v6 right =>
          have := left.isLt
          simp only [rank] at same
          omega
  | v6 left =>
      cases right with
      | v4 right =>
          have := right.isLt
          simp only [rank] at same
          omega
      | v6 right =>
          simp only [rank] at same
          exact congrArg v6 (BitVec.eq_of_toNat_eq (by omega))

/-- The four octets of a version four address in decimal. -/
def renderOctets (bits : BitVec 32) : String :=
  let number := bits.toNat
  ".".intercalate
    ([number / 0x1000000, number / 0x10000 % 256, number / 0x100 % 256,
      number % 256].map Text.Decimal.render)

def groups (bits : BitVec 128) : List Nat :=
  (List.range 8).map fun index => (bits.toNat >>> (16 * (7 - index))) % 0x10000

/--
The start and the length of the first longest run of zeros in `groups`, where
`at` is the place of the first of them and `running` the length of the run
that ends there.
-/
def zeroRun (groups : List Nat) (at_ running : Nat) : Nat × Nat :=
  match groups with
  | [] => (at_ - running, running)
  | group :: rest =>
      if group = 0 then zeroRun rest (at_ + 1) (running + 1)
      else
        let later := zeroRun rest (at_ + 1) 0
        if running < later.2 then later else (at_ - running, running)

/-- Groups in hexadecimal, separated by colons. -/
def renderGroups (groups : List Nat) : String :=
  ":".intercalate (groups.map fun group =>
    String.ofList (Text.Hexadecimal.digits group))

/-- A version six address in groups, without its longest run of zeros. -/
def renderCompressed (bits : BitVec 128) : String :=
  let groups := groups bits
  let (start, length) := zeroRun groups 0 0
  if 1 < length then
    renderGroups (groups.take start) ++ "::" ++
      renderGroups (groups.drop (start + length))
  else
    renderGroups groups

/-- An address as text; a mapped one ends in the octets it is mapped from. -/
def render : Ip → String
  | .v4 bits => renderOctets bits
  | .v6 bits =>
      match mapped? bits with
      | some inner => "::ffff:" ++ renderOctets inner
      | none => renderCompressed bits

/-- An address as the host of a URL, where a mapped one has no octets. -/
def renderHost : Ip → String
  | .v4 bits => renderOctets bits
  | .v6 bits => "[" ++ renderCompressed bits ++ "]"

end Ip

end QuotaRing.Net
