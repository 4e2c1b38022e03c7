/-!
# Hexadecimal digits

Writing numbers in base sixteen, at a fixed width or without leading zeros,
and reading single digits of either case.
-/

namespace QuotaRing.Text.Hexadecimal

/-- The value of a hexadecimal digit of either case. -/
def digitValue? (character : Char) : Option Nat :=
  if '0' ≤ character ∧ character ≤ '9' then
    some (character.toNat - '0'.toNat)
  else if 'a' ≤ character ∧ character ≤ 'f' then
    some (10 + (character.toNat - 'a'.toNat))
  else if 'A' ≤ character ∧ character ≤ 'F' then
    some (10 + (character.toNat - 'A'.toNat))
  else
    none

/-- The number written by digits; what is no digit counts as zero. -/
def number (digits : List Char) : Nat :=
  digits.foldl
    (fun leading digit => 16 * leading + (digitValue? digit).getD 0) 0

/-- The lower case digit with a value below sixteen. -/
def lowerDigit (value : Nat) : Char :=
  if value % 16 < 10 then Char.ofNat ('0'.toNat + value % 16)
  else Char.ofNat ('a'.toNat + (value % 16 - 10))

/-- The upper case digit with a value below sixteen. -/
def upperDigit (value : Nat) : Char :=
  if value % 16 < 10 then Char.ofNat ('0'.toNat + value % 16)
  else Char.ofNat ('A'.toNat + (value % 16 - 10))

/-- The last `width` lower case digits of a number. -/
def fixed : Nat → Nat → List Char
  | 0, _ => []
  | width + 1, number => fixed width (number / 16) ++ [lowerDigit number]

/-- The lower case digits of a number without leading zeros. -/
def digits (number : Nat) : List Char :=
  if number < 16 then [lowerDigit number]
  else digits (number / 16) ++ [lowerDigit number]

end QuotaRing.Text.Hexadecimal
