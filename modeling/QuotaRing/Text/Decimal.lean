import QuotaRing.Arith.Saturating

/-!
# Decimal numbers

The digits of a natural number and the reading of numbers from text: digits
alone, digits after an optional plus sign, and digits after an optional sign
of either kind.  Main statement: reading the digits of a number gives the
number back.
-/

namespace QuotaRing.Text.Decimal

def digitValue? (character : Char) : Option Nat :=
  if '0' ≤ character ∧ character ≤ '9' then
    some (character.toNat - '0'.toNat)
  else
    none

def digit (value : Nat) : Char :=
  Char.ofNat ('0'.toNat + value % 10)

/-- The decimal digits of a number, most significant first. -/
def digits (number : Nat) : List Char :=
  if number < 10 then [digit number]
  else digits (number / 10) ++ [digit number]

/-- Continue reading a number whose leading digits have the value `leading`. -/
def readFrom (leading : Nat) : List Char → Option Nat
  | [] => some leading
  | character :: rest =>
      match digitValue? character with
      | some value => readFrom (10 * leading + value) rest
      | none => none

/-- The number written by one or more decimal digits. -/
def natural? : List Char → Option Nat
  | [] => none
  | text => readFrom 0 text

/-- A number at most `highest`, with an optional plus sign in front. -/
def unsigned? (highest : Nat) (text : List Char) : Option Nat :=
  let number? :=
    match text with
    | '+' :: rest => natural? rest
    | _ => natural? text
  number?.filter (· ≤ highest)

/-- A 64-bit signed number, with an optional sign in front. -/
def signed? (text : List Char) : Option Int64 :=
  let number? : Option Int :=
    match text with
    | '+' :: rest => (natural? rest).map Int.ofNat
    | '-' :: rest => (natural? rest).map fun number => -Int.ofNat number
    | _ => (natural? text).map Int.ofNat
  (number?.filter fun exact =>
    Saturating.lowest ≤ exact ∧ exact ≤ Saturating.highest).map Int64.ofInt

def render (number : Nat) : String :=
  String.ofList (digits number)

/-- The digits of an integer, after a minus sign if it is negative. -/
def renderInt (number : Int) : String :=
  if number < 0 then "-" ++ render number.natAbs else render number.natAbs

theorem digitValue?_digit (value : Nat) :
    digitValue? (digit value) = some (value % 10) := by
  have bound : value % 10 < 10 := Nat.mod_lt _ (by decide)
  unfold digit
  generalize value % 10 = remainder at bound
  revert remainder
  decide

theorem readFrom_append_digit
    (leading value : Nat)
    (text : List Char) :
    readFrom leading (text ++ [digit value]) =
      (readFrom leading text).map fun number => 10 * number + value % 10 := by
  induction text generalizing leading with
  | nil => simp [readFrom, digitValue?_digit]
  | cons character rest ih =>
      simp only [List.cons_append, readFrom]
      cases digitValue? character with
      | none => rfl
      | some first => exact ih _

theorem readFrom_digits (number : Nat) :
    readFrom 0 (digits number) = some number := by
  fun_induction digits number with
  | case1 number small =>
      simp [readFrom, digitValue?_digit, Nat.mod_eq_of_lt small]
  | case2 number large ih =>
      rw [readFrom_append_digit, ih]
      simp only [Option.map_some]
      congr 1
      omega

theorem digits_ne_nil (number : Nat) : digits number ≠ [] := by
  unfold digits
  split <;> simp

theorem natural?_digits (number : Nat) :
    natural? (digits number) = some number := by
  rw [← readFrom_digits number]
  unfold natural?
  split
  · exact absurd (by assumption) (digits_ne_nil number)
  · rfl

end QuotaRing.Text.Decimal
