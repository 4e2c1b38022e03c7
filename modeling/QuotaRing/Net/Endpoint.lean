import QuotaRing.Net.Ip

/-!
# Endpoints

An endpoint is an internet address with a port.  A version six address of
local scope also names a zone.  Endpoints are ordered by address, port and
zone, version four before version six.
-/

namespace QuotaRing.Net

/-- Where a node listens. -/
inductive Endpoint where
  | v4 (bits : BitVec 32) (port : UInt16)
  | v6 (bits : BitVec 128) (port : UInt16) (zone : UInt32)
  deriving DecidableEq, Repr

namespace Endpoint

/-- The endpoint of an address and a port, in no zone. -/
def ofIp (ip : Ip) (port : UInt16) : Endpoint :=
  match ip with
  | .v4 bits => .v4 bits port
  | .v6 bits => .v6 bits port 0

def ip : Endpoint → Ip
  | .v4 bits _ => .v4 bits
  | .v6 bits _ _ => .v6 bits

def port : Endpoint → UInt16
  | .v4 _ port => port
  | .v6 _ port _ => port

/-- A number whose order is that of endpoints. -/
def rank : Endpoint → Nat
  | .v4 bits port => bits.toNat * 0x10000 + port.toNat
  | .v6 bits port zone =>
      0x1000000000000 + (bits.toNat * 0x10000 + port.toNat) * 0x100000000 +
        zone.toNat

theorem rank_injective {left right : Endpoint} (same : left.rank = right.rank) :
    left = right := by
  cases left with
  | v4 left leftPort =>
      have := left.isLt
      have := leftPort.toNat_lt
      cases right with
      | v4 right rightPort =>
          have := rightPort.toNat_lt
          simp only [rank] at same
          have bits : left = right := BitVec.eq_of_toNat_eq (by omega)
          have port : leftPort = rightPort := UInt16.toNat_inj.1 (by omega)
          rw [bits, port]
      | v6 right rightPort zone =>
          simp only [rank] at same
          omega
  | v6 left leftPort leftZone =>
      have := left.isLt
      have := leftPort.toNat_lt
      have := leftZone.toNat_lt
      cases right with
      | v4 right rightPort =>
          have := right.isLt
          have := rightPort.toNat_lt
          simp only [rank] at same
          omega
      | v6 right rightPort rightZone =>
          have := rightPort.toNat_lt
          have := rightZone.toNat_lt
          simp only [rank] at same
          have bits : left = right := BitVec.eq_of_toNat_eq (by omega)
          have port : leftPort = rightPort := UInt16.toNat_inj.1 (by omega)
          have zone : leftZone = rightZone := UInt32.toNat_inj.1 (by omega)
          rw [bits, port, zone]

/-- Whether an endpoint comes no later than another. -/
def precedes (left right : Endpoint) : Bool :=
  left.rank ≤ right.rank

def render : Endpoint → String
  | .v4 bits port =>
      (Ip.v4 bits).render ++ ":" ++ Text.Decimal.render port.toNat
  | .v6 bits port zone =>
      let scope :=
        if zone = 0 then "" else "%" ++ Text.Decimal.render zone.toNat
      "[" ++ (Ip.v6 bits).render ++ scope ++ "]:" ++
        Text.Decimal.render port.toNat

end Endpoint

end QuotaRing.Net
