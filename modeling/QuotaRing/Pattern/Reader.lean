/-!
# Readers

A reader takes something from the start of a text and leaves the rest, or it
refuses the text.
-/

namespace QuotaRing.Pattern

abbrev Reader (α : Type) : Type :=
  StateT (List Char) Option α

namespace Reader

/-- The next character. -/
def next : Reader Char
  | [] => none
  | first :: rest => some (first, rest)

/-- Whether the given marks come next.  If so, they are passed over. -/
def takes (marks : List Char) : Reader Bool := fun text =>
  if marks.isPrefixOf text then some (true, text.drop marks.length)
  else some (false, text)

/-- The next character, if it passes a test. -/
def takeIf? (test : Char → Bool) : Reader (Option Char)
  | [] => some (none, [])
  | first :: rest =>
      if test first then some (some first, rest) else some (none, first :: rest)

/-- Whether what comes next passes a test.  Nothing is passed over. -/
def peeks (test : List Char → Bool) : Reader Bool := fun text =>
  some (test text, text)

/-- What comes before the given marks, which are passed over. -/
def upTo (marks : List Char) : Reader (List Char)
  | [] => none
  | first :: rest =>
      if marks.isPrefixOf (first :: rest) then
        some ([], (first :: rest).drop marks.length)
      else
        (upTo marks rest).map fun (before, after) => (first :: before, after)

/-- What a reader takes, or nothing where it refuses the text. -/
def attempt {α : Type} (reader : Reader α) : Reader (Option α) := fun text =>
  match reader text with
  | some (read, rest) => some (some read, rest)
  | none => some (none, text)

/-- Change the text that is still to be read. -/
def pass (change : List Char → List Char) : Reader Unit := fun text =>
  some ((), change text)

/-- A reader that may take as many steps as there are characters, and one more. -/
def sized {α : Type} (reader : Nat → Reader α) : Reader α := fun text =>
  reader (text.length + 1) text

end Reader

end QuotaRing.Pattern
