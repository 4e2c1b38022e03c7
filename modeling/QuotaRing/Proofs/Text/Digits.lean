import Mathlib.Algebra.Group.Nat.Defs
import QuotaRing.Text.Blank
import QuotaRing.Text.Control
import QuotaRing.Text.Decimal
import QuotaRing.Text.Hexadecimal

/-!
# Digits in texts

Every digit that is written is one of ten or of sixteen characters, so what
holds of those holds of digits.  Main statements: a number reads back from its
hexadecimal digits at every width in which it fits, and a number below two to
the 63 from its decimal digits also where a sign may precede them.
-/

namespace QuotaRing.Text.Hexadecimal

/-- The digits in lower case. -/
def lowerDigits : List Char :=
  ['0', '1', '2', '3', '4', '5', '6', '7', '8', '9', 'a', 'b', 'c', 'd', 'e',
    'f']

theorem lowerDigit_mem (value : Nat) : lowerDigit value ∈ lowerDigits := by
  have below : value % 16 < 16 := Nat.mod_lt value (by decide)
  rw [lowerDigit]
  generalize value % 16 = digit at below
  revert digit
  decide

theorem fixed_subset (width number : Nat) :
    ∀ character ∈ fixed width number, character ∈ lowerDigits := by
  induction width generalizing number with
  | zero =>
      intro character member
      cases member
  | succ width ih =>
      intro character member
      rcases List.mem_append.1 member with earlier | last
      · exact ih _ character earlier
      · rw [List.mem_singleton.1 last]
        exact lowerDigit_mem number

theorem length_fixed (width number : Nat) : (fixed width number).length = width := by
  induction width generalizing number with
  | zero => rfl
  | succ width ih => simp [fixed, ih]

theorem digitValue?_lowerDigit (value : Nat) :
    digitValue? (lowerDigit value) = some (value % 16) := by
  have below : value % 16 < 16 := Nat.mod_lt value (by decide)
  rw [lowerDigit]
  generalize value % 16 = digit at below ⊢
  revert digit
  decide

/-- A number reads back from as many digits as it needs at least. -/
theorem number_fixed
    {width value : Nat}
    (bound : value < 16 ^ width) :
    number (fixed width value) = value := by
  induction width generalizing value with
  | zero =>
      rw [Nat.pow_zero] at bound
      exact (Nat.lt_one_iff.1 bound).symm
  | succ width ih =>
      rw [Nat.pow_succ, Nat.mul_comm] at bound
      have leading := ih (Nat.div_lt_of_lt_mul bound)
      rw [number] at leading ⊢
      rw [fixed, List.foldl_append, leading]
      simp only [List.foldl_cons, List.foldl_nil, digitValue?_lowerDigit,
        Option.getD_some]
      omega

/-- Numbers that fit in a width are told apart by their digits. -/
theorem fixed_inj
    {width left right : Nat}
    (leftFits : left < 16 ^ width)
    (rightFits : right < 16 ^ width)
    (same : fixed width left = fixed width right) :
    left = right := by
  have read := congrArg number same
  rw [number_fixed leftFits, number_fixed rightFits] at read
  exact read

/-- No digit is a control character or a colon, and each takes one byte. -/
theorem plain_of_mem_lowerDigits
    {character : Char}
    (member : character ∈ lowerDigits) :
    isControl character = false ∧ character ≠ ':' ∧ character.utf8Size = 1 := by
  have all : lowerDigits.all (fun digit =>
      !isControl digit && digit != ':' && digit.utf8Size == 1) = true := by
    decide
  have one := List.all_eq_true.1 all character member
  simpa [and_assoc] using one

end QuotaRing.Text.Hexadecimal

namespace QuotaRing.Text

theorem trim_of_no_blank
    {text : List Char}
    (none : ∀ character ∈ text, isBlank character = false) :
    trim text = text := by
  have dropped : ∀ characters : List Char,
      (∀ character ∈ characters, isBlank character = false) →
        dropBlanks characters = characters := by
    intro characters all
    cases characters with
    | nil => rfl
    | cons first rest =>
        rw [dropBlanks, List.dropWhile_cons_of_neg]
        rw [all first List.mem_cons_self]
        exact Bool.false_ne_true
  have reversed : ∀ character ∈ text.reverse, isBlank character = false :=
    fun character member => none character (List.mem_reverse.1 member)
  rw [trim, dropped text none, dropped text.reverse reversed, List.reverse_reverse]

namespace Decimal

/-- The decimal digits. -/
def decimalDigits : List Char :=
  ['0', '1', '2', '3', '4', '5', '6', '7', '8', '9']

theorem digit_mem (value : Nat) : digit value ∈ decimalDigits := by
  have below : value % 10 < 10 := Nat.mod_lt value (by decide)
  rw [digit]
  generalize value % 10 = remainder at below
  revert remainder
  decide

theorem digits_subset (number : Nat) :
    ∀ character ∈ digits number, character ∈ decimalDigits := by
  fun_induction digits number with
  | case1 number small =>
      intro character member
      rw [List.mem_singleton.1 member]
      exact digit_mem number
  | case2 number large ih =>
      intro character member
      rcases List.mem_append.1 member with earlier | last
      · exact ih character earlier
      · rw [List.mem_singleton.1 last]
        exact digit_mem number

/-- No digit is blank or a sign, and all are printed. -/
theorem plain_of_mem_decimalDigits
    {character : Char}
    (member : character ∈ decimalDigits) :
    isBlank character = false ∧ character ≠ '+' ∧ character ≠ '-' ∧
      0x20 ≤ character.toNat ∧ character.toNat < 0x7f := by
  have all : decimalDigits.all (fun digit =>
      !isBlank digit && digit != '+' && digit != '-' &&
        decide (0x20 ≤ digit.toNat) && decide (digit.toNat < 0x7f)) = true := by
    decide
  have one := List.all_eq_true.1 all character member
  simpa [and_assoc] using one

/-- Digits are read as a signed number if it is in the range of those. -/
theorem signed?_digits_eq (number : Nat) :
    signed? (digits number) =
      if (number : Int) ≤ Saturating.highest then some (Int64.ofInt number)
      else none := by
  have lowest : Saturating.lowest ≤ (number : Int) := by
    rw [Saturating.lowest]
    omega
  have natural := natural?_digits number
  have subset := digits_subset number
  unfold signed?
  split
  · next rest written =>
      have plus := plain_of_mem_decimalDigits
        (subset '+' (written ▸ List.mem_cons_self))
      exact absurd rfl plus.2.1
  · next rest written =>
      have minus := plain_of_mem_decimalDigits
        (subset '-' (written ▸ List.mem_cons_self))
      exact absurd rfl minus.2.2.1
  · rw [natural]
    simp only [Option.map_some, Option.filter_some, Int.ofNat_eq_natCast, lowest,
      true_and, decide_eq_true_eq]
    split
    · rfl
    · rfl

end Decimal

end QuotaRing.Text
