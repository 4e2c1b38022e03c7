import QuotaRing.Text.Hexadecimal
import QuotaRing.Text.Utf8

/-!
# Percent encoding

A byte that may not stand in a segment of a path is written as a percent sign
and two hexadecimal digits.  Reading leaves a percent sign alone that no two
digits follow.  Main statement: reading what was written gives the bytes back.
-/

namespace QuotaRing.Http.Percent

/-- Whether a byte may stand in a segment of a path as it is. -/
def isPlain (byte : UInt8) : Bool :=
  0x20 < byte && byte < 0x7f &&
    !(['"', '#', '<', '>', '?', '`', '\x7b', '\x7d', '/', '%', '\\'].contains
      (Char.ofNat byte.toNat))

/-- A byte as it stands in a segment. -/
def encodeByte (byte : UInt8) : List Char :=
  if isPlain byte then [Char.ofNat byte.toNat]
  else
    ['%', Text.Hexadecimal.upperDigit (byte.toNat / 16),
      Text.Hexadecimal.upperDigit byte.toNat]

def encode (bytes : List UInt8) : List Char :=
  bytes.flatMap encodeByte

/-- The byte of a digit that stands after a percent sign. -/
def digit? (byte : UInt8) : Option Nat :=
  if byte < 0x80 then
    Text.Hexadecimal.digitValue? (Char.ofNat byte.toNat)
  else none

/-- The byte written by the two digits at the start of bytes. -/
def escaped? : List UInt8 → Option UInt8
  | high :: low :: _ =>
      match digit? high, digit? low with
      | some high, some low => some (UInt8.ofNat (16 * high + low))
      | _, _ => none
  | _ => none

def decode (bytes : List UInt8) : List UInt8 :=
  match bytes with
  | [] => []
  | byte :: rest =>
      if byte == 0x25 then
        match escaped? rest with
        | some value => value :: decode (rest.drop 2)
        | none => byte :: decode rest
      else byte :: decode rest
termination_by bytes.length
decreasing_by all_goals simp only [List.length_drop, List.length_cons]; omega

def ascii (text : List Char) : List UInt8 :=
  text.map fun character => UInt8.ofNat character.toNat

theorem decode_encodeByte_append (byte : UInt8) (rest : List UInt8) :
    decode (ascii (encodeByte byte) ++ rest) = byte :: decode rest := by
  revert byte
  suffices every : ∀ byte : Fin 256,
      (isPlain (UInt8.ofNat byte) = true ∧
        UInt8.ofNat (Char.ofNat byte).toNat = UInt8.ofNat byte ∧
        (UInt8.ofNat byte == 0x25) = false) ∨
      (isPlain (UInt8.ofNat byte) = false ∧
        digit? (UInt8.ofNat
          (Text.Hexadecimal.upperDigit (byte.val / 16)).toNat) =
            some (byte.val / 16) ∧
        digit? (UInt8.ofNat
          (Text.Hexadecimal.upperDigit byte.val).toNat) =
            some (byte.val % 16)) by
    intro byte
    have found := every ⟨byte.toNat, byte.toNat_lt⟩
    simp only [UInt8.ofNat_toNat] at found
    rcases found with ⟨plain, same, notPercent⟩ | ⟨notPlain, high, low⟩
    · simp only [encodeByte, plain, ascii, if_true, List.map_cons, List.map_nil,
        List.cons_append, List.nil_append, same]
      rw [decode]
      simp only [notPercent, Bool.false_eq_true, if_false]
    · simp only [encodeByte, notPlain, ascii, Bool.false_eq_true, if_false,
        List.map_cons, List.map_nil, List.cons_append, List.nil_append]
      rw [decode]
      simp only [escaped?, high, low, List.drop_succ_cons, List.drop_zero,
        show (UInt8.ofNat '%'.toNat == 0x25) = true from rfl, if_true]
      rw [show 16 * (byte.toNat / 16) + byte.toNat % 16 = byte.toNat from by omega,
        UInt8.ofNat_toNat]
  decide +kernel

theorem decode_encode (bytes : List UInt8) : decode (ascii (encode bytes)) = bytes := by
  induction bytes with
  | nil => simp [encode, ascii, decode]
  | cons byte rest ih =>
      have step := decode_encodeByte_append byte (ascii (encode rest))
      rw [ih] at step
      simpa [encode, ascii] using step

end QuotaRing.Http.Percent
