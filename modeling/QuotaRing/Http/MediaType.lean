/-!
# Media types

A media type is a type and a subtype, both tokens, followed by parameters,
whose values are tokens or quoted.  What comes after the last plus sign of a
subtype is its suffix.
-/

namespace QuotaRing.Http.MediaType

def isToken (character : Char) : Bool :=
  character.isAlphanum ||
    ['!', '#', '$', '%', '&', '\'', '+', '-', '.', '^', '_', '`', '|', '~'].contains
      character

/-- Whether a character may stand between quotes. -/
def isQuotable (character : Char) : Bool :=
  character == '\t' || (0x20 ≤ character.toNat && character.toNat != 0x7f)

/-- What follows the value of a parameter in quotes, after the first quote. -/
def afterQuoted? (isFirst : Bool) : List Char → Option (List Char)
  | [] => none
  | '"' :: rest =>
      if isFirst then afterQuoted? false rest
      else
        match rest.dropWhile (· == ' ') with
        | [] => some []
        | ';' :: rest => some rest
        | _ => none
  | first :: rest => if isQuotable first then afterQuoted? false rest else none

/-- What follows the value of a parameter. -/
def afterValue? (text : List Char) : Option (List Char) :=
  match text with
  | '"' :: rest => afterQuoted? true rest
  | _ =>
      let value := text.takeWhile isToken
      match text.drop value.length with
      | [] => some []
      | ';' :: rest => if value.isEmpty then none else some rest
      | _ => none

/-- Whether a text is a list of parameters; `fuel` bounds their number. -/
def areParameters (fuel : Nat) (text : List Char) : Bool :=
  match fuel with
  | 0 => false
  | fuel + 1 =>
      match text.dropWhile (· == ' ') with
      | [] => true
      | text =>
          let name := text.takeWhile isToken
          match text.drop name.length with
          | '=' :: rest =>
              if name.isEmpty then false
              else
                match afterValue? rest with
                | some rest => areParameters fuel rest
                | none => false
          | _ => false

/-- The part of a text after its last plus sign, if one comes after the start. -/
def suffix? (subtype : List Char) : Option (List Char) :=
  let after := (subtype.reverse.takeWhile (· != '+')).reverse
  if after.length + 1 < subtype.length then some after else none

/-- Whether a text is the media type of JSON or of a format made of JSON. -/
def isJson (text : String) : Bool :=
  let characters := text.toList.map Char.toLower
  let main := characters.takeWhile isToken
  match characters.drop main.length with
  | '/' :: rest =>
      let subtype := rest.takeWhile isToken
      let parametersFit :=
        match rest.drop subtype.length with
        | [] => true
        | ';' :: parameters =>
            !subtype.isEmpty && areParameters (parameters.length + 1) parameters
        | _ => false
      parametersFit && main == "application".toList &&
        (subtype == "json".toList || suffix? subtype == some "json".toList)
  | _ => false

end QuotaRing.Http.MediaType
