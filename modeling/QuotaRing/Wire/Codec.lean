import QuotaRing.Text.Utf8
import QuotaRing.Wire.Varint

/-!
# The binary form of values

A type with a binary form gives the bytes of a value and a reader for the
start of longer bytes.  Fields follow each other without separators; a signed
number is folded onto the natural numbers, zero, minus one, one, minus two and
so on; a text or a sequence is preceded by its length; a choice is preceded by
the number of its variant.
-/

namespace QuotaRing.Wire

/-- A type whose values have a binary form. -/
class Coded (α : Type) where
  /-- The bytes of a value. -/
  encode : α → List UInt8
  /-- Read a value at the start of bytes. -/
  decodePrefix : Decoder α

export Coded (encode decodePrefix)

/-- The value whose form the bytes are, with nothing left over. -/
def decode {α : Type} [Coded α] (bytes : List UInt8) : Except DecodeError α := do
  let (value, rest) ← decodePrefix bytes
  match rest with
  | [] => .ok value
  | _ :: _ => .error (.trailing rest.length)

/-- Fold the integers onto the natural numbers. -/
def zigzag (number : Int) : Nat :=
  if 0 ≤ number then (2 * number).toNat else (-2 * number - 1).toNat

/-- The integer that is folded onto a natural number. -/
def unzigzag (folded : Nat) : Int :=
  if folded % 2 = 0 then Int.ofNat (folded / 2)
  else -Int.ofNat (folded / 2) - 1

theorem unzigzag_zigzag (number : Int) : unzigzag (zigzag number) = number := by
  unfold unzigzag zigzag
  split <;> split <;> simp only [Int.ofNat_eq_natCast] at * <;> omega

instance : Coded UInt32 where
  encode number := encodeNat number.toNat
  decodePrefix bytes := do
    let (number, rest) ← decodeNat .four bytes
    .ok (UInt32.ofNat number, rest)

instance : Coded Int64 where
  encode number := encodeNat (zigzag number.toInt)
  decodePrefix bytes := do
    let (folded, rest) ← decodeNat .eight bytes
    .ok (Int64.ofInt (unzigzag folded), rest)

instance : Coded Bool where
  encode truth := [if truth then 1 else 0]
  decodePrefix
    | [] => .error .unexpectedEnd
    | byte :: rest =>
        if byte == 0 then .ok (false, rest)
        else if byte == 1 then .ok (true, rest)
        else .error .invalidBoolean

instance : Coded String where
  encode text := encodeNat text.utf8ByteSize ++ Text.Utf8.encode text
  decodePrefix bytes := do
    let (length, rest) ← decodeNat .eight bytes
    let (form, rest) ← splitExactly length rest
    match Text.Utf8.decode? form with
    | some text => .ok (text, rest)
    | none => .error .invalidText

/--
Read `count` values; those already read are given in reverse.
-/
def decodeMany
    {α : Type}
    [Coded α]
    (count : Nat)
    (reversed : List α)
    (bytes : List UInt8) :
    Except DecodeError (List α × List UInt8) :=
  match count with
  | 0 => .ok (reversed.reverse, bytes)
  | count + 1 =>
      match decodePrefix bytes with
      | .error error => .error error
      | .ok (value, rest) => decodeMany count (value :: reversed) rest

instance {α : Type} [Coded α] : Coded (List α) where
  encode values := encodeNat values.length ++ values.flatMap encode
  decodePrefix bytes := do
    let (count, rest) ← decodeNat .eight bytes
    decodeMany count [] rest

/-- The form of one of finitely many names: its place in their list. -/
def encodeIndex
    {α : Type}
    [BEq α]
    (all : List α)
    (value : α) :
    List UInt8 :=
  encodeNat (all.idxOf value)

/-- Read one of finitely many names by its place in their list. -/
def decodeIndex {α : Type} (all : List α) : Decoder α := fun bytes => do
  let (index, rest) ← decodeNat .four bytes
  match all[index]? with
  | some value => .ok (value, rest)
  | none => .error .invalidVariant

end QuotaRing.Wire
