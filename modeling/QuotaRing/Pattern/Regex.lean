import QuotaRing.Pattern.Characters

/-!
# Regular expressions

The expressions that patterns are read as, and the matching of a text against
one.  An expression leads from a set of places between characters to the set
of places at which a match that starts in the first set can end.  A set of
places is a number whose bits are set at its members, so that the work for
each part of an expression is one operation on numbers.
-/

namespace QuotaRing.Pattern

/-- What an expression can demand of a place between characters. -/
inductive Look where
  | textStart
  | textEnd
  | lineStart
  | lineEnd
  /-- Lines may also end with a carriage return. -/
  | lineStartCrlf
  | lineEndCrlf
  /-- Between a character of a word and one that is of none. -/
  | wordBoundary (isFull : Bool)
  | noWordBoundary (isFull : Bool)
  | wordStart (isFull : Bool)
  | wordEnd (isFull : Bool)
  | noWordBefore (isFull : Bool)
  | noWordAfter (isFull : Bool)
  deriving DecidableEq

namespace Look

def isWord (isFull : Bool) (character? : Option Char) : Bool :=
  match character? with
  | some character =>
      if isFull then Kind.word.holds character
      else character.toNat < 0x80 && Kind.word.holdsAscii character
  | none => false

/-- Whether a demand is met between two characters, of which either may lack. -/
def holds (look : Look) (before? after? : Option Char) : Bool :=
  match look with
  | textStart => before?.isNone
  | textEnd => after?.isNone
  | lineStart => before?.isNone || before? == some '\n'
  | lineEnd => after?.isNone || after? == some '\n'
  | lineStartCrlf =>
      before?.isNone || before? == some '\n' ||
        (before? == some '\r' && after? != some '\n')
  | lineEndCrlf =>
      after?.isNone || after? == some '\r' ||
        (after? == some '\n' && before? != some '\r')
  | wordBoundary isFull => isWord isFull before? != isWord isFull after?
  | noWordBoundary isFull => isWord isFull before? == isWord isFull after?
  | wordStart isFull => !isWord isFull before? && isWord isFull after?
  | wordEnd isFull => isWord isFull before? && !isWord isFull after?
  | noWordBefore isFull => !isWord isFull before?
  | noWordAfter isFull => !isWord isFull after?

end Look

/-- A regular expression. -/
inductive Regex where
  | empty
  | one (set : CharClass)
  | look (demand : Look)
  | seq (first second : Regex)
  | alt (left right : Regex)
  /-- From `least` to `most?` times, or without an upper bound. -/
  | times (inner : Regex) (least : Nat) (most? : Option Nat)
  deriving DecidableEq

/-- An expression whose demands have been looked up in one text. -/
inductive Located where
  | empty
  /-- Move on from the places in `places`. -/
  | step (places : Nat)
  /-- Stay at the places in `places`. -/
  | stay (places : Nat)
  | seq (first second : Located)
  | alt (left right : Located)
  | times (inner : Located) (least : Nat) (most? : Option Nat)

/-- The set of the indices at which a list is true. -/
def bits (truths : List Bool) : Nat :=
  truths.foldr (fun truth number => 2 * number + if truth then 1 else 0) 0

/-- The characters before and after every place of a text. -/
def neighbours (before? : Option Char) : List Char → List (Option Char × Option Char)
  | [] => [(before?, none)]
  | character :: rest =>
      (before?, some character) :: neighbours (some character) rest

namespace Regex

/-- Look up the demands of an expression in a text. -/
def locate (text : List Char) : Regex → Located
  | empty => .empty
  | one set => .step (bits (text.map set.contains))
  | .look demand =>
      .stay (bits ((neighbours none text).map fun (before?, after?) =>
        demand.holds before? after?))
  | seq first second => .seq (first.locate text) (second.locate text)
  | alt left right => .alt (left.locate text) (right.locate text)
  | times inner least most? => .times (inner.locate text) least most?

end Regex

/-- What `move` makes of a set when it is applied a number of times. -/
def iterate (move : Nat → Nat) : Nat → Nat → Nat
  | 0, places => places
  | count + 1, places =>
      if places = 0 then 0 else iterate move count (move places)

/--
The places that are reached from `fresh` by at most `count` moves, with those
`reached` already, from which nothing new is to be had.
-/
def spread (move : Nat → Nat) (count reached fresh : Nat) : Nat :=
  match count with
  | 0 => reached ||| fresh
  | count + 1 =>
      if fresh = 0 then reached
      else
        let reached := reached ||| fresh
        spread move count reached ((reached ||| move fresh) ^^^ reached)

namespace Located

/--
The places where matches end that start in a set of places of a text with
`length` characters.
-/
def ends (length : Nat) : Located → Nat → Nat
  | empty, places => places
  | step from_, places => (places &&& from_) <<< 1
  | stay at_, places => places &&& at_
  | seq first second, places => second.ends length (first.ends length places)
  | alt left right, places => left.ends length places ||| right.ends length places
  | times inner least most?, places =>
      let start := iterate (inner.ends length) least places
      let more :=
        match most? with
        | some most => most - least
        | none => length + 1
      spread (inner.ends length) more 0 start

end Located

namespace Regex

/-- Whether an expression matches anywhere in a text. -/
def matchesIn (regex : Regex) (text : List Char) : Bool :=
  let everywhere := (1 <<< (text.length + 1)) - 1
  (regex.locate text).ends text.length everywhere != 0

end Regex

end QuotaRing.Pattern
