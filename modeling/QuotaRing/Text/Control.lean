/-!
# Control characters
-/

namespace QuotaRing.Text

/-- Whether a character is one of the control characters of Unicode. -/
def isControl (character : Char) : Bool :=
  character.toNat < 0x20 ||
    (0x7f ≤ character.toNat && character.toNat ≤ 0x9f)

end QuotaRing.Text
