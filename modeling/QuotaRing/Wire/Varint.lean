/-!
# Variable-length integers

A natural number below 251 is its own single byte.  A larger one is a marker
byte, which tells the width, and the number in two, four or eight bytes with
the lowest byte first.  A reader is told the widest form its type allows; a
form that is wider than the number needs is accepted.
-/

namespace QuotaRing.Wire

/-- Why bytes are not the form of a value. -/
inductive DecodeError where
  /-- The bytes end before the value does. -/
  | unexpectedEnd
  /-- A marker byte tells a width that the type does not have. -/
  | invalidInteger
  /-- A truth value is neither zero nor one. -/
  | invalidBoolean
  /-- A text is no UTF-8. -/
  | invalidText
  /-- A variant has a number that no variant of the type has. -/
  | invalidVariant
  /-- Bytes are left over after the value. -/
  | trailing (count : Nat)
  deriving DecidableEq, Repr

/-- A reader of a value at the start of bytes, which also gives the rest. -/
abbrev Decoder (α : Type) : Type :=
  List UInt8 → Except DecodeError (α × List UInt8)

/-- The lowest `width` bytes of a number, the lowest first. -/
def littleEndian : Nat → Nat → List UInt8
  | 0, _ => []
  | width + 1, number =>
      UInt8.ofNat (number % 256) :: littleEndian width (number / 256)

/-- The number whose bytes are given, the lowest first. -/
def ofLittleEndian : List UInt8 → Nat
  | [] => 0
  | byte :: rest => byte.toNat + 256 * ofLittleEndian rest

/-- The number of values that a number of bytes can have. -/
def capacity : Nat → Nat
  | 0 => 1
  | width + 1 => 256 * capacity width

/-- The first `count` bytes and the rest, if there are as many. -/
def splitExactly
    (count : Nat)
    (bytes : List UInt8) :
    Except DecodeError (List UInt8 × List UInt8) :=
  let taken := bytes.take count
  if taken.length = count then .ok (taken, bytes.drop count)
  else .error .unexpectedEnd

/-- The types of integers on the wire, by their width in bytes. -/
inductive Width where
  | four
  | eight
  deriving DecidableEq

def Width.bytes : Width → Nat
  | .four => 4
  | .eight => 8

/-- The form of a number below `2 ^ 64`. -/
def encodeNat (number : Nat) : List UInt8 :=
  if number < 251 then [UInt8.ofNat number]
  else if number < 0x10000 then 251 :: littleEndian 2 number
  else if number < 0x100000000 then 252 :: littleEndian 4 number
  else 253 :: littleEndian 8 number

/-- The number of bytes that follow a marker byte. -/
def payload? (marker : UInt8) : Option Nat :=
  if marker == 251 then some 2
  else if marker == 252 then some 4
  else if marker == 253 then some 8
  else none

/-- Read a number of a type of at most the given width. -/
def decodeNat (width : Width) : Decoder Nat
  | [] => .error .unexpectedEnd
  | first :: rest =>
      if first < 251 then .ok (first.toNat, rest)
      else
        match payload? first with
        | none => .error .invalidInteger
        | some count =>
            if width.bytes < count then .error .invalidInteger
            else do
              let (bytes, rest) ← splitExactly count rest
              .ok (ofLittleEndian bytes, rest)

theorem length_littleEndian (width number : Nat) :
    (littleEndian width number).length = width := by
  induction width generalizing number with
  | zero => rfl
  | succ width ih => simp [littleEndian, ih]

theorem ofLittleEndian_littleEndian
    {width number : Nat}
    (bound : number < capacity width) :
    ofLittleEndian (littleEndian width number) = number := by
  induction width generalizing number with
  | zero =>
      simp only [capacity] at bound
      simp only [littleEndian, ofLittleEndian]
      omega
  | succ width ih =>
      have small : number / 256 < capacity width :=
        Nat.div_lt_of_lt_mul bound
      simp only [littleEndian, ofLittleEndian, ih small]
      have : (UInt8.ofNat (number % 256)).toNat = number % 256 := by
        simp
      omega

end QuotaRing.Wire
