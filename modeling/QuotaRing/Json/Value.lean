import QuotaRing.Text.Decimal
import QuotaRing.Text.Hexadecimal

/-!
# JSON values

The values that are written as JSON, whose numbers are all integers, and their
text.  The text has no blanks, keeps the order of fields, and escapes what
JSON does not allow in strings.
-/

namespace QuotaRing.Json

/-- A JSON value without fractions. -/
inductive Value where
  | null
  | bool (truth : Bool)
  | number (exact : Int)
  | string (text : String)
  | array (items : List Value)
  | object (fields : List (String × Value))

def Value.natural (number : Nat) : Value :=
  .number (Int.ofNat number)

def Value.strings (texts : List String) : Value :=
  .array (texts.map .string)

def escaped (character : Char) : List Char :=
  match character with
  | '"' => ['\\', '"']
  | '\\' => ['\\', '\\']
  | '\n' => ['\\', 'n']
  | '\r' => ['\\', 'r']
  | '\t' => ['\\', 't']
  | _ =>
      if character.toNat = 0x08 then ['\\', 'b']
      else if character.toNat = 0x0c then ['\\', 'f']
      else if character.toNat < 0x20 then
        ['\\', 'u'] ++ Text.Hexadecimal.fixed 4 character.toNat
      else [character]

def quoted (text : String) : String :=
  "\"" ++ String.ofList (text.toList.flatMap escaped) ++ "\""

namespace Value

mutual

def render : Value → String
  | .null => "null"
  | .bool truth => if truth then "true" else "false"
  | .number exact => Text.Decimal.renderInt exact
  | .string text => quoted text
  | .array items => "[" ++ renderItems items ++ "]"
  | .object fields => "\x7b" ++ renderFields fields ++ "\x7d"

def renderItems : List Value → String
  | [] => ""
  | [item] => render item
  | item :: rest => render item ++ "," ++ renderItems rest

def renderFields : List (String × Value) → String
  | [] => ""
  | [(name, value)] => quoted name ++ ":" ++ render value
  | (name, value) :: rest =>
      quoted name ++ ":" ++ render value ++ "," ++ renderFields rest

end

end Value

end QuotaRing.Json
