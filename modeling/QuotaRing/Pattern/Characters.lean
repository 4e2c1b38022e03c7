import QuotaRing.Text.Blank
import QuotaRing.Unicode.Binary
import QuotaRing.Unicode.CaseFold
import QuotaRing.Unicode.ScriptExtensions

/-!
# Sets of characters in patterns

A set is built from ranges, named kinds and Unicode properties by union,
intersection, differences and complement, and by closing it under changes of
case.
-/

namespace QuotaRing.Pattern

/-- A property that Unicode gives to characters. -/
inductive Property where
  | any
  | ascii
  | assigned
  /-- A general category, or a class of categories by its first letter. -/
  | category (letters : String)
  /-- The letters of upper, lower and title case. -/
  | casedLetter
  /-- The characters of a script. -/
  | script (letters : String)
  /-- The characters that are used in a script. -/
  | usedIn (letters : String)
  /-- A property that a character has or has not, by its name. -/
  | binary (name : String)
  deriving DecidableEq

def Property.holds (property : Property) (character : Char) : Bool :=
  match property with
  | any => true
  | ascii => character.toNat < 0x80
  | assigned => !Unicode.inCategory "Cn" character
  | category letters => Unicode.inCategory letters character
  | casedLetter =>
      Unicode.inCategory "Lu" character || Unicode.inCategory "Ll" character ||
        Unicode.inCategory "Lt" character
  | script letters => Unicode.script character == letters
  | usedIn letters => Unicode.isUsedIn letters character
  | binary name =>
      match Unicode.binaryNamed? name with
      | some holds => holds character
      | none => false

/-- The kinds of characters that have an escape of their own. -/
inductive Kind where
  | digit
  | space
  | word
  deriving DecidableEq

def Kind.holdsAscii (kind : Kind) (character : Char) : Bool :=
  match kind with
  | digit => character.isDigit
  | space =>
      character == ' ' || (0x09 ≤ character.toNat && character.toNat ≤ 0x0d)
  | word => character.isAlphanum || character == '_'

def Kind.holds (kind : Kind) (character : Char) : Bool :=
  if character.toNat < 0x80 then kind.holdsAscii character
  else
    match kind with
    | digit => Unicode.isDigit character
    | space => Text.isBlank character
    | word => Unicode.isWord character

/-- A set of characters. -/
inductive CharClass where
  | empty
  | range (first last : Char)
  /-- A kind; without `isFull` its ASCII characters only. -/
  | kind (named : Kind) (isFull : Bool)
  | property (named : Property)
  | union (left right : CharClass)
  | intersection (left right : CharClass)
  | difference (left right : CharClass)
  | symmetricDifference (left right : CharClass)
  | complement (inner : CharClass)
  /-- All variants in case; without `isFull` of ASCII letters only. -/
  | anyCase (inner : CharClass) (isFull : Bool)
  deriving DecidableEq

namespace CharClass

/-- The ASCII letter of the other case, and any other character itself. -/
def otherCase (character : Char) : Char :=
  if character.isUpper then character.toLower else character.toUpper

def contains (set : CharClass) (character : Char) : Bool :=
  match set with
  | .empty => false
  | .range first last => first ≤ character && character ≤ last
  | .kind named isFull =>
      if isFull then named.holds character
      else character.toNat < 0x80 && named.holdsAscii character
  | .property named => named.holds character
  | .union left right => left.contains character || right.contains character
  | .intersection left right =>
      left.contains character && right.contains character
  | .difference left right =>
      left.contains character && !right.contains character
  | .symmetricDifference left right =>
      left.contains character != right.contains character
  | .complement inner => !inner.contains character
  | .anyCase inner isFull =>
      if isFull then
        (Unicode.caseVariants character).any fun variant =>
          inner.contains variant
      else
        inner.contains character || inner.contains (otherCase character)

def single (character : Char) : CharClass :=
  range character character

/-- The set of the characters in any of the given ranges. -/
def ofRanges (ranges : List (Char × Char)) : CharClass :=
  ranges.foldr (fun (first, last) set => union (range first last) set) empty

def all : CharClass :=
  complement empty

/-- Whether a set has no member among the bytes beyond ASCII. -/
def isAscii (set : CharClass) : Bool :=
  (List.range 0x80).all fun index => !set.contains (Char.ofNat (0x80 + index))

def asciiNamed? (name : String) : Option CharClass :=
  let upper : Char × Char := ('A', 'Z')
  let lower : Char × Char := ('a', 'z')
  let digit : Char × Char := ('0', '9')
  match name with
  | "alnum" => some (ofRanges [digit, upper, lower])
  | "alpha" => some (ofRanges [upper, lower])
  | "ascii" => some (ofRanges [(Char.ofNat 0, Char.ofNat 0x7f)])
  | "blank" => some (ofRanges [('\t', '\t'), (' ', ' ')])
  | "cntrl" =>
      some (ofRanges [(Char.ofNat 0, Char.ofNat 0x1f),
        (Char.ofNat 0x7f, Char.ofNat 0x7f)])
  | "digit" => some (ofRanges [digit])
  | "graph" => some (ofRanges [('!', '~')])
  | "lower" => some (ofRanges [lower])
  | "print" => some (ofRanges [(' ', '~')])
  | "punct" => some (ofRanges [('!', '/'), (':', '@'), ('[', '`'), (Char.ofNat 0x7b, '~')])
  | "space" => some (ofRanges [(Char.ofNat 0x09, Char.ofNat 0x0d), (' ', ' ')])
  | "upper" => some (ofRanges [upper])
  | "word" => some (ofRanges [digit, upper, ('_', '_'), lower])
  | "xdigit" => some (ofRanges [digit, ('A', 'F'), ('a', 'f')])
  | _ => none

end CharClass

end QuotaRing.Pattern
