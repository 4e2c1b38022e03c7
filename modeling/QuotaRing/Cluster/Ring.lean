import QuotaRing.Bytes.XxHash
import QuotaRing.Net.Endpoint
import QuotaRing.Text.Utf8

/-!
# Consistent hashing

Every member of a ring holds a number of positions, the hashes of its labels.
The owners of a key are the members in the order in which a walk upward from
the hash of the key, which goes on from the smallest position after the
greatest, first meets a position of theirs.
-/

namespace QuotaRing.Cluster

open QuotaRing.Net (Endpoint)

/-- The number of positions of a member, unless another is asked for. -/
def defaultShare : Nat := 160

/-- A position on the ring and the member that holds it. -/
structure Spot where
  position : UInt64
  holder : Endpoint
  deriving DecidableEq

namespace Spot

/-- Whether a spot comes no later: by position, then by holder. -/
def precedes (left right : Spot) : Bool :=
  left.position < right.position ||
    (left.position == right.position && left.holder.precedes right.holder)

end Spot

/-- The members of a list in order, each once. -/
def distinctMembers (members : List Endpoint) : List Endpoint :=
  members.eraseDups.mergeSort Endpoint.precedes

/-- The place of bytes on the ring. -/
def ringHash (bytes : List UInt8) : UInt64 :=
  XxHash.hash 0 bytes

/-- The label of a member that stands for one of its positions. -/
def label (member : Endpoint) (index : Nat) : String :=
  member.render ++ "#" ++ Text.Decimal.render index

/-- The spots that a member claims. -/
def claimedSpots (share : Nat) (member : Endpoint) : List Spot :=
  (List.range (max 1 share)).map fun index =>
    { position := ringHash (Text.Utf8.encode (label member index))
      holder := member }

/-- All claims of the listed members in order. -/
def claims (listed : List Endpoint) (share : Nat) : List Spot :=
  ((distinctMembers listed).flatMap (claimedSpots share)).mergeSort
    Spot.precedes

/-- The first spot at each position of an ordered list. -/
def firstAtEach : List Spot → List Spot
  | [] => []
  | spot :: rest =>
      spot :: (firstAtEach rest).dropWhile (·.position == spot.position)

/-- A set of members and the positions they hold. -/
structure Ring where
  /-- The members in order, each once. -/
  members : List Endpoint
  /-- The positions in ascending order, each once. -/
  spots : List Spot

namespace Ring

/--
The ring of the listed members.  A position that several members claim goes to
the first of them in order.
-/
def ofMembers (listed : List Endpoint) (share : Nat) : Ring :=
  { members := distinctMembers listed
    spots := firstAtEach (claims listed share) }

/-- All spots in the order of the walk upward from a position. -/
def walkFrom (ring : Ring) (position : UInt64) : List Spot :=
  ring.spots.filter (position ≤ ·.position) ++
    ring.spots.filter (·.position < position)

/-- The holders of spots as they are first met, until `count` are found. -/
def meet (count : Nat) (found : List Endpoint) : List Spot → List Endpoint
  | [] => found
  | spot :: rest =>
      if found.contains spot.holder then meet count found rest
      else
        let found := found ++ [spot.holder]
        if found.length = count then found else meet count found rest

/-- The members in the order in which they are asked for a key. -/
def owners (ring : Ring) (key : List UInt8) : List Endpoint :=
  meet ring.members.length [] (ring.walkFrom (ringHash key))

/-- The member that is asked first for a key. -/
def primary? (ring : Ring) (key : List UInt8) : Option Endpoint :=
  (ring.owners key).head?

end Ring

end QuotaRing.Cluster
