import QuotaRing.Text.Hexadecimal
import QuotaRing.Unicode.Property

/-!
# Quoted text in messages

A text that a message quotes stands between double quotes.  What cannot be
shown, or would be shown as part of the character before it, is written by
its code.
-/

namespace QuotaRing.Text.Quoted

/-- A character written by its code in hexadecimal. -/
def byCode (character : Char) : List Char :=
  ['\\', 'u', '{'] ++ Hexadecimal.digits character.toNat ++ ['}']

/-- A character as it stands between the quotes. -/
def escape (character : Char) : List Char :=
  match character with
  | '\n' => ['\\', 'n']
  | '\r' => ['\\', 'r']
  | '\t' => ['\\', 't']
  | '"' => ['\\', '"']
  | '\\' => ['\\', '\\']
  | _ =>
      if character.toNat = 0 then ['\\', '0']
      else if 0x20 ≤ character.toNat ∧ character.toNat < 0x7f then [character]
      else if Unicode.extendsGrapheme character then byCode character
      else if Unicode.isPrintable character then [character]
      else byCode character

def render (text : String) : String :=
  String.ofList (['"'] ++ text.toList.flatMap escape ++ ['"'])

end QuotaRing.Text.Quoted
