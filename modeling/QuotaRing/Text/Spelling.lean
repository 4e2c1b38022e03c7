import QuotaRing.Text.Blank

/-!
# Names read without regard to case

A closed set of names is read from text after blanks are trimmed and letters
are raised to upper case.  The names are ASCII, so of the full Unicode upper
case mapping only the characters whose upper case is ASCII can matter: the
lower case letters, the dotless i, the long s, the sharp s and the Latin
ligatures.
-/

namespace QuotaRing.Text

/--
The upper case of a character where that is ASCII text, and the character
itself otherwise.
-/
def upperCase (character : Char) : List Char :=
  match character.toNat with
  | 0xdf => ['S', 'S']
  | 0x131 => ['I']
  | 0x17f => ['S']
  | 0xfb00 => ['F', 'F']
  | 0xfb01 => ['F', 'I']
  | 0xfb02 => ['F', 'L']
  | 0xfb03 => ['F', 'F', 'I']
  | 0xfb04 => ['F', 'F', 'L']
  | 0xfb05 => ['S', 'T']
  | 0xfb06 => ['S', 'T']
  | _ => [character.toUpper]

/-- The form in which a name is looked up. -/
def spelling (text : String) : String :=
  String.ofList ((trim text.toList).flatMap upperCase)

/-- The value among `all` whose name a text spells. -/
def spelled?
    {α : Type}
    (all : List α)
    (name : α → String)
    (text : String) :
    Option α :=
  all.find? fun value => name value == spelling text

end QuotaRing.Text
