/-!
# Texts as bytes

The UTF-8 form of a string and its two readings: a strict one, which refuses
bytes that are no UTF-8, and a lenient one, which puts the replacement
character for each maximal piece that cannot be part of a character.  The strict
reading of the form of a string is the string.
-/

namespace QuotaRing.Text.Utf8

def encode (text : String) : List UInt8 :=
  text.toByteArray.data.toList

def decode? (bytes : List UInt8) : Option String :=
  String.fromUTF8? ⟨bytes.toArray⟩

theorem decode?_encode (text : String) :
    decode? (encode text) = some text := by
  unfold decode? encode String.fromUTF8?
  simp only [Array.toArray_toList]
  rw [dif_pos text.isValidUTF8]
  rfl

/-- Whether a byte continues a character of several bytes. -/
def isContinuation (byte : UInt8) : Bool :=
  0x80 ≤ byte && byte ≤ 0xbf

/--
The bytes that may follow a leading byte directly and the number of bytes that
follow it in all; `none` for a byte that leads no character.
-/
def following? (lead : UInt8) : Option ((UInt8 × UInt8) × Nat) :=
  if lead < 0x80 then some ((0, 0), 0)
  else if lead < 0xc2 then none
  else if lead < 0xe0 then some ((0x80, 0xbf), 1)
  else if lead == 0xe0 then some ((0xa0, 0xbf), 2)
  else if lead == 0xed then some ((0x80, 0x9f), 2)
  else if lead < 0xf0 then some ((0x80, 0xbf), 2)
  else if lead == 0xf0 then some ((0x90, 0xbf), 3)
  else if lead < 0xf4 then some ((0x80, 0xbf), 3)
  else if lead == 0xf4 then some ((0x80, 0x8f), 3)
  else none

/--
The number of bytes at the start of `bytes` that belong to one character, or
to the start of one that is cut short, and whether the character is complete.
-/
def piece (lead : UInt8) (bytes : List UInt8) : Nat × Bool :=
  match following? lead, bytes with
  | none, _ => (1, false)
  | some (_, 0), _ => (1, true)
  | some (_, _ + 1), [] => (1, false)
  | some ((low, high), count + 1), second :: rest =>
      if low ≤ second && second ≤ high then
        let more := (rest.take count).takeWhile isContinuation
        (2 + more.length, more.length == count)
      else
        (1, false)

/-- The reading in which each piece that is no character is replaced. -/
def lenient (bytes : List UInt8) : List Char :=
  match bytes with
  | [] => []
  | lead :: rest =>
      let (length, complete) := piece lead rest
      let first :=
        if complete then
          match decode? (bytes.take length) with
          | some text => text.toList
          | none => ['\ufffd']
        else
          ['\ufffd']
      first ++ lenient (rest.drop (length - 1))
termination_by bytes.length
decreasing_by
  simp only [List.length_drop, List.length_cons]
  omega

end QuotaRing.Text.Utf8
