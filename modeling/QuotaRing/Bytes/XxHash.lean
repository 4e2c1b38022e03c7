/-!
# The 64-bit xxHash of a byte string

Four lanes take eight bytes each of every full stripe of thirty-two bytes;
the lanes are merged, the bytes that fill no stripe are mixed in by eight, by
four and one at a time, and the sum is scrambled at the end.  All arithmetic
is modulo `2 ^ 64`.
-/

namespace QuotaRing.XxHash

def prime1 : UInt64 := 0x9e3779b185ebca87

def prime2 : UInt64 := 0xc2b2ae3d27d4eb4f

def prime3 : UInt64 := 0x165667b19e3779f9

def prime4 : UInt64 := 0x85ebca77c2b2ae63

def prime5 : UInt64 := 0x27d4eb2f165667c5

/-- Turn a word to the left by fewer than 64 bits. -/
def rotateLeft (word : UInt64) (count : UInt64) : UInt64 :=
  (word <<< count) ||| (word >>> (64 - count))

/-- The word whose bytes are given, the lowest byte first. -/
def littleEndian (bytes : List UInt8) : UInt64 :=
  bytes.foldr (fun byte word => (word <<< 8) ||| byte.toUInt64) 0

/-- One lane after it has taken in a word. -/
def round (lane word : UInt64) : UInt64 :=
  rotateLeft (lane + word * prime2) 31 * prime1

/-- The state of the four lanes. -/
structure Lanes where
  first : UInt64
  second : UInt64
  third : UInt64
  fourth : UInt64

namespace Lanes

/-- The lanes before any stripe. -/
def start (seed : UInt64) : Lanes where
  first := seed + prime1 + prime2
  second := seed + prime2
  third := seed
  fourth := seed - prime1

/-- The lanes after a stripe, which is the first 32 bytes of `bytes`. -/
def absorb (lanes : Lanes) (bytes : List UInt8) : Lanes where
  first := round lanes.first (littleEndian (bytes.take 8))
  second := round lanes.second (littleEndian ((bytes.drop 8).take 8))
  third := round lanes.third (littleEndian ((bytes.drop 16).take 8))
  fourth := round lanes.fourth (littleEndian ((bytes.drop 24).take 8))

/-- A merged sum after one lane has been folded into it. -/
def fold (sum lane : UInt64) : UInt64 :=
  (sum ^^^ round 0 lane) * prime1 + prime4

/-- The four lanes merged into one word. -/
def merge (lanes : Lanes) : UInt64 :=
  let sum :=
    rotateLeft lanes.first 1 + rotateLeft lanes.second 7 +
      rotateLeft lanes.third 12 + rotateLeft lanes.fourth 18
  fold (fold (fold (fold sum lanes.first) lanes.second) lanes.third)
    lanes.fourth

end Lanes

/-- Take in all full stripes; the bytes left over fill none. -/
def absorbStripes (lanes : Lanes) (bytes : List UInt8) : Lanes × List UInt8 :=
  match _split : bytes.drop 31 with
  | [] => (lanes, bytes)
  | _ :: rest => absorbStripes (lanes.absorb bytes) rest
termination_by bytes.length
decreasing_by
  have := congrArg List.length _split
  simp only [List.length_drop, List.length_cons] at this
  omega

/-- Mix the bytes that fill no stripe into the sum. -/
def mixTail (sum : UInt64) (bytes : List UInt8) : UInt64 :=
  match bytes with
  | b0 :: b1 :: b2 :: b3 :: b4 :: b5 :: b6 :: b7 :: rest =>
      let word := littleEndian [b0, b1, b2, b3, b4, b5, b6, b7]
      mixTail (rotateLeft (sum ^^^ round 0 word) 27 * prime1 + prime4) rest
  | b0 :: b1 :: b2 :: b3 :: rest =>
      let word := littleEndian [b0, b1, b2, b3]
      mixTail (rotateLeft (sum ^^^ (word * prime1)) 23 * prime2 + prime3) rest
  | byte :: rest =>
      mixTail (rotateLeft (sum ^^^ (byte.toUInt64 * prime5)) 11 * prime1) rest
  | [] => sum

/-- Scramble the bits of the final sum. -/
def avalanche (sum : UInt64) : UInt64 :=
  let sum := (sum ^^^ (sum >>> 33)) * prime2
  let sum := (sum ^^^ (sum >>> 29)) * prime3
  sum ^^^ (sum >>> 32)

def hash (seed : UInt64) (bytes : List UInt8) : UInt64 :=
  let sum :=
    if bytes.length < 32 then
      (seed + prime5, bytes)
    else
      let (lanes, rest) := absorbStripes (Lanes.start seed) bytes
      (lanes.merge, rest)
  avalanche (mixTail (sum.1 + bytes.length.toUInt64) sum.2)

end QuotaRing.XxHash
