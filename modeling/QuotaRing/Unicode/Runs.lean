import QuotaRing.Arith.Bisect
import QuotaRing.Text.Hexadecimal

/-!
# Tables of characters by runs

A property of characters is given by the lengths of the runs on which it does
not change, from the first code on: each length in hexadecimal, followed by
the value of the property, which has a fixed number of letters and starts with
a capital one.
-/

namespace QuotaRing.Unicode

/-- The first code and the value of every run, in ascending order. -/
abbrev Runs : Type :=
  Array (Nat × String)

namespace Runs

/-- Add the runs written in a text; `start` is the first code of the next one. -/
def extend
    (width : Nat)
    (runs : Runs)
    (start length : Nat)
    (text : List Char) :
    Runs :=
  match text with
  | [] => runs
  | first :: rest =>
      if first.isUpper then
        let value := String.ofList (first :: rest.take (width - 1))
        extend width (runs.push (start, value)) (start + length) 0
          (rest.drop (width - 1))
      else
        match Text.Hexadecimal.digitValue? first with
        | some digit => extend width runs start (16 * length + digit) rest
        | none => extend width runs start length rest
termination_by text.length
decreasing_by
  all_goals simp only [List.length_drop, List.length_cons]; omega

/-- The runs written in a text whose values have `width` letters. -/
def ofText (width : Nat) (text : String) : Runs :=
  extend width #[] 0 0 text.toList

/-- The value of a character, and an empty one after the last run. -/
def value (runs : Runs) (character : Char) : String :=
  let starts (index : Nat) : Bool :=
    match runs[index]? with
    | some (start, _) => start ≤ character.toNat
    | none => false
  match runs[bisect starts 0 runs.size - 1]? with
  | some (_, value) => value
  | none => ""

end Runs

/-- A set of characters, by runs of those outside (`N`) and inside (`Y`). -/
structure CharSet where
  runs : Runs

namespace CharSet

/-- The set whose runs are written in a text. -/
def ofText (text : String) : CharSet where
  runs := Runs.ofText 1 text

def contains (set : CharSet) (character : Char) : Bool :=
  set.runs.value character == "Y"

end CharSet

end QuotaRing.Unicode
