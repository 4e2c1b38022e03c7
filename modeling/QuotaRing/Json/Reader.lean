import QuotaRing.Text.Decimal
import QuotaRing.Text.Hexadecimal
import QuotaRing.Text.Utf8

/-!
# Reading JSON by the shape that is wanted

A reader takes a value of one shape from the start of bytes and stops at the
first fault it meets: bytes that are no JSON, or JSON of another shape.
Records are read from objects, where fields may come in any order and unknown
ones are passed over, and from arrays of their fields in order.  Values that
are passed over may nest to any depth.
-/

namespace QuotaRing.Json

/-- Why bytes were not read. -/
inductive Fault where
  /-- The bytes are no JSON. -/
  | malformed
  /-- The value has not the shape that is wanted. -/
  | mismatch
  deriving DecidableEq, Repr

/--
A reader of a value at the start of bytes, which also gives the rest.  It is
given a number that is greater than that of the bytes, which bounds the items
it can meet.
-/
abbrev Reader (α : Type) : Type :=
  Nat → List UInt8 → Except Fault (α × List UInt8)

def byte (character : Char) : UInt8 :=
  UInt8.ofNat character.toNat

def character (byte : UInt8) : Char :=
  Char.ofNat byte.toNat

def isSpace (byte : UInt8) : Bool :=
  byte == 0x20 || byte == 0x09 || byte == 0x0a || byte == 0x0d

def skipSpace (bytes : List UInt8) : List UInt8 :=
  bytes.dropWhile isSpace

def expect (wanted : Char) (bytes : List UInt8) : Except Fault (List UInt8) :=
  match bytes with
  | [] => .error .malformed
  | first :: rest =>
      if first == byte wanted then .ok rest else .error .malformed

def expectWord : List Char → List UInt8 → Except Fault (List UInt8)
  | [], bytes => .ok bytes
  | wanted :: word, bytes => do expectWord word (← expect wanted bytes)

namespace Scan

/-- Where in a string a byte stands. -/
inductive Place where
  | plain
  /-- After a backslash. -/
  | escape
  /--
  Among the four digits of a code, of which `left` are still to come; `high?`
  is the first half of the pair that the code completes.
  -/
  | digits (high? : Option Nat) (left code : Nat)
  /-- Where the backslash before the second half of a pair must stand. -/
  | secondBackslash (high : Nat)
  /-- Where the letter after that backslash must stand. -/
  | secondLetter (high : Nat)

/-- What a byte of a string does. -/
inductive Step where
  /-- It closes the string. -/
  | close
  /-- It may not stand where it does. -/
  | fault
  /-- It leads to a place and adds bytes to the text. -/
  | go (next : Place) (added : List UInt8)

/-- The character written by a letter after a backslash. -/
def letterEscape? (letter : UInt8) : Option Char :=
  match character letter with
  | '"' => some '"'
  | '\\' => some '\\'
  | '/' => some '/'
  | 'b' => some (Char.ofNat 0x08)
  | 'f' => some (Char.ofNat 0x0c)
  | 'n' => some '\n'
  | 'r' => some '\r'
  | 't' => some '\t'
  | _ => none

/-- A code that is complete: a character, or the first half of a pair. -/
def completeCode (high? : Option Nat) (code : Nat) : Step :=
  let isHigh := 0xd800 ≤ code && code ≤ 0xdbff
  let isLow := 0xdc00 ≤ code && code ≤ 0xdfff
  match high? with
  | some high =>
      if isLow then
        .go .plain (String.utf8EncodeChar (Char.ofNat
          (0x10000 + (high - 0xd800) * 0x400 + (code - 0xdc00))))
      else .fault
  | none =>
      if isLow then .fault
      else if isHigh then .go (.secondBackslash code) []
      else .go .plain (String.utf8EncodeChar (Char.ofNat code))

/--
The step that a byte takes.  Codes need not be characters in a string whose
text is not wanted.
-/
def step (isWanted : Bool) (place : Place) (first : UInt8) : Step :=
  match place with
  | .plain =>
      if first == byte '"' then .close
      else if first == byte '\\' then .go .escape []
      else if first < 0x20 then .fault
      else .go .plain [first]
  | .escape =>
      if first == byte 'u' then .go (.digits none 4 0) []
      else
        match letterEscape? first with
        | some code => .go .plain [byte code]
        | none => .fault
  | .digits high? left code =>
      match Text.Hexadecimal.digitValue? (character first) with
      | none => .fault
      | some digit =>
          let code := 16 * code + digit
          if 1 < left then .go (.digits high? (left - 1) code) []
          else if isWanted then completeCode high? code
          else .go .plain []
  | .secondBackslash high =>
      if first == byte '\\' then .go (.secondLetter high) [] else .fault
  | .secondLetter high =>
      if first == byte 'u' then .go (.digits (some high) 4 0) [] else .fault

/--
The bytes of a string, after its opening quote, and what follows it.  What
came before is given in reverse.
-/
def stringBody
    (isWanted : Bool)
    (place : Place)
    (reversed : List UInt8) :
    List UInt8 → Except Fault (List UInt8 × List UInt8)
  | [] => .error .malformed
  | first :: rest =>
      match step isWanted place first with
      | .close => .ok (reversed.reverse, rest)
      | .fault => .error .malformed
      | .go next added =>
          stringBody isWanted next (added.reverse ++ reversed) rest

/-- What follows a string, after its opening quote, that nobody reads. -/
def skipString (bytes : List UInt8) : Except Fault (List UInt8) :=
  (stringBody false .plain [] bytes).map Prod.snd

/-- A number as it is written: its sign, its digits and its exponent. -/
structure Number where
  isNegative : Bool
  whole : List Nat
  decimals : List Nat
  /-- Whether decimals or an exponent are written. -/
  isPlain : Bool
  exponent : Int

def digits (reversed : List Nat) : List UInt8 → List Nat × List UInt8
  | [] => (reversed.reverse, [])
  | first :: rest =>
      match Text.Decimal.digitValue? (character first) with
      | some digit => digits (digit :: reversed) rest
      | none => (reversed.reverse, first :: rest)

def decimalValue (digits : List Nat) : Nat :=
  digits.foldl (fun number digit => 10 * number + digit) 0

def someDigits (bytes : List UInt8) : Except Fault (List Nat × List UInt8) :=
  match digits [] bytes with
  | ([], _) => .error .malformed
  | found => .ok found

/-- What follows a character, if it comes next. -/
def optional (wanted : Char) (bytes : List UInt8) : Option (List UInt8) :=
  (expect wanted bytes).toOption

def exponent (bytes : List UInt8) : Except Fault (Option Int × List UInt8) :=
  match (optional 'e' bytes).or (optional 'E' bytes) with
  | none => .ok (none, bytes)
  | some bytes => do
      match optional '-' bytes with
      | some bytes => do
          let (digits, bytes) ← someDigits bytes
          .ok (some (-Int.ofNat (decimalValue digits)), bytes)
      | none => do
          let (digits, bytes) ← someDigits ((optional '+' bytes).getD bytes)
          .ok (some (Int.ofNat (decimalValue digits)), bytes)

def number (bytes : List UInt8) : Except Fault (Number × List UInt8) := do
  let (isNegative, bytes) :=
    match optional '-' bytes with
    | some rest => (true, rest)
    | none => (false, bytes)
  let (whole, bytes) ← someDigits bytes
  if whole.head? = some 0 ∧ 1 < whole.length then .error .malformed
  let (decimals, bytes) ←
    match optional '.' bytes with
    | some rest => someDigits rest
    | none => .ok ([], bytes)
  let (exponent?, bytes) ← exponent bytes
  .ok
    ({ isNegative := isNegative
       whole := whole
       decimals := decimals
       isPlain := decimals.isEmpty && exponent?.isNone
       exponent := exponent?.getD 0 },
      bytes)

/--
Whether the magnitude of a number rounds to more than the greatest finite
number of 64-bit floating point.
-/
def Number.isTooLarge (number : Number) : Bool :=
  let digits := (number.whole ++ number.decimals).dropWhile (· == 0)
  let exponent := number.exponent - number.decimals.length
  let size := digits.length + exponent
  if digits.isEmpty ∨ size < 309 then false
  else if 309 < size then true
  else
    let bound := (1 <<< 1024) - (1 <<< 970)
    if 0 ≤ exponent then bound ≤ decimalValue digits * Nat.pow 10 exponent.toNat
    else bound * Nat.pow 10 exponent.natAbs ≤ decimalValue digits

end Scan

/-- A string at the start of bytes, after its opening quote. -/
def stringAfterQuote (bytes : List UInt8) : Except Fault (String × List UInt8) := do
  let (body, rest) ← Scan.stringBody true .plain [] bytes
  match Text.Utf8.decode? body with
  | some text => .ok (text, rest)
  | none => .error .malformed

/--
The fault of a value that has not the shape that is wanted.  A string, a number
or a word is read to its end, so that it may also be malformed.
-/
def mismatched (bytes : List UInt8) : Fault :=
  match bytes with
  | [] => .malformed
  | first :: rest =>
      let outcome : Except Fault Unit :=
        match character first with
        | 'n' => (expectWord ['u', 'l', 'l'] rest).map fun _ => ()
        | 't' => (expectWord ['r', 'u', 'e'] rest).map fun _ => ()
        | 'f' => (expectWord ['a', 'l', 's', 'e'] rest).map fun _ => ()
        | '"' => (stringAfterQuote rest).map fun _ => ()
        | '[' => .ok ()
        | '{' => .ok ()
        | other =>
            if other = '-' ∨ (Text.Decimal.digitValue? other).isSome then
              match Scan.number bytes with
              | .ok (number, _) =>
                  if number.isTooLarge then .error .malformed else .ok ()
              | .error fault => .error fault
            else
              .error .malformed
      match outcome with
      | .ok () => .mismatch
      | .error fault => fault

def string : Reader String := fun _ bytes =>
  let bytes := skipSpace bytes
  match Scan.optional '"' bytes with
  | some rest => stringAfterQuote rest
  | none => .error (mismatched bytes)

def bool : Reader Bool := fun _ bytes =>
  let bytes := skipSpace bytes
  match Scan.optional 't' bytes, Scan.optional 'f' bytes with
  | some rest, _ => do .ok (true, ← expectWord ['r', 'u', 'e'] rest)
  | _, some rest => do .ok (false, ← expectWord ['a', 'l', 's', 'e'] rest)
  | none, none => .error (mismatched bytes)

/-- Read a natural number below a bound, written by its digits alone. -/
def naturalBelow (bound : Nat) : Reader Nat := fun _ bytes =>
  let bytes := skipSpace bytes
  match bytes with
  | [] => .error .malformed
  | first :: _ =>
      if (Text.Decimal.digitValue? (character first)).isSome then do
        let (number, rest) ← Scan.number bytes
        let value := Scan.decimalValue number.whole
        if number.isPlain ∧ value < bound then .ok (value, rest)
        else if number.isTooLarge then .error .malformed
        else .error .mismatch
      else
        .error (mismatched bytes)

def null : Reader Unit := fun _ bytes =>
  let bytes := skipSpace bytes
  match Scan.optional 'n' bytes with
  | some rest => do .ok ((), ← expectWord ['u', 'l', 'l'] rest)
  | none => .error (mismatched bytes)

/-- Read `null` as absence and anything else by the given reader. -/
def nullable {α : Type} (reader : Reader α) : Reader (Option α) := fun fuel bytes =>
  match Scan.optional 'n' (skipSpace bytes) with
  | some rest => do .ok (none, ← expectWord ['u', 'l', 'l'] rest)
  | none => do
      let (value, rest) ← reader fuel bytes
      .ok (some value, rest)

/--
Read one of a set of names: as a string, or as an object whose only field has
the name and is null.
-/
def variant {α : Type} (named? : String → Option α) : Reader α := fun fuel bytes =>
  let find (name : String) : Except Fault α :=
    match named? name with
    | some value => .ok value
    | none => .error .mismatch
  let bytes := skipSpace bytes
  match Scan.optional '"' bytes, Scan.optional '{' bytes with
  | some rest, _ => do
      let (name, rest) ← stringAfterQuote rest
      .ok (← find name, rest)
  | none, some rest => do
      let (name, rest) ← string fuel rest
      let value ← find name
      let rest ← expect ':' (skipSpace rest)
      let (_, rest) ← null fuel rest
      .ok (value, ← expect '}' (skipSpace rest))
  | none, none => .error .malformed

/--
Whether another item comes in a list that ends with the given character, and
the bytes at which it starts or that follow the end.
-/
def nextItem
    (close : Char)
    (isFirst : Bool)
    (bytes : List UInt8) :
    Except Fault (Bool × List UInt8) :=
  let bytes := skipSpace bytes
  match Scan.optional close bytes with
  | some rest => .ok (false, rest)
  | none =>
      if isFirst then
        if bytes.isEmpty then .error .malformed else .ok (true, bytes)
      else do
        let bytes := skipSpace (← expect ',' bytes)
        match Scan.optional close bytes with
        | some _ => .error .malformed
        | none =>
            if bytes.isEmpty then .error .malformed else .ok (true, bytes)

/-- The items of an array after its bracket; those before are given in reverse. -/
def items
    {α : Type}
    (reader : List UInt8 → Except Fault (α × List UInt8))
    (fuel : Nat)
    (reversed : List α)
    (bytes : List UInt8) :
    Except Fault (List α × List UInt8) :=
  match fuel with
  | 0 => .error .malformed
  | fuel + 1 =>
      match nextItem ']' reversed.isEmpty bytes with
      | .error fault => .error fault
      | .ok (false, rest) => .ok (reversed.reverse, rest)
      | .ok (true, bytes) =>
          match reader bytes with
          | .error fault => .error fault
          | .ok (item, rest) => items reader fuel (item :: reversed) rest

def array {α : Type} (reader : Reader α) : Reader (List α) := fun fuel bytes =>
  let bytes := skipSpace bytes
  match Scan.optional '[' bytes with
  | some rest => items (reader fuel) fuel [] rest
  | none => .error (mismatched bytes)

/-- What an open array or object is. -/
inductive Frame where
  | array
  | object

/-- The character that ends an array or an object. -/
def Frame.close : Frame → Char
  | array => ']'
  | object => '}'

/--
The start of the next value in a frame: in an object, that is after a name and
a colon.
-/
def enter (frame : Frame) (bytes : List UInt8) : Except Fault (List UInt8) :=
  match frame with
  | .array => .ok bytes
  | .object => do
      let bytes ← expect '"' (skipSpace bytes)
      let bytes ← Scan.skipString bytes
      expect ':' (skipSpace bytes)

/--
Leave the frames that end here; in the first that does not, go on to the next
value.
-/
def leave :
    List Frame → List UInt8 → Except Fault (List Frame × List UInt8)
  | [], bytes => .ok ([], bytes)
  | frame :: outer, bytes => do
      match ← nextItem frame.close false bytes with
      | (false, rest) => leave outer rest
      | (true, rest) => do .ok (frame :: outer, ← enter frame rest)

/-- Pass over a value of any shape inside the given frames. -/
def skipWithin
    (fuel : Nat)
    (frames : List Frame)
    (bytes : List UInt8) :
    Except Fault (List UInt8) :=
  match fuel, skipSpace bytes with
  | 0, _ => .error .malformed
  | _, [] => .error .malformed
  | fuel + 1, first :: rest =>
      let opened : Except Fault (Sum (List UInt8) (Frame × List UInt8)) :=
        match character first with
        | 'n' => (expectWord ['u', 'l', 'l'] rest).map .inl
        | 't' => (expectWord ['r', 'u', 'e'] rest).map .inl
        | 'f' => (expectWord ['a', 'l', 's', 'e'] rest).map .inl
        | '"' => (Scan.skipString rest).map .inl
        | '[' => .ok (.inr (.array, rest))
        | '{' => .ok (.inr (.object, rest))
        | _ => (Scan.number (first :: rest)).map fun (_, rest) => .inl rest
      let next : Except Fault (List Frame × List UInt8) := do
        match ← opened with
        | .inl rest => leave frames rest
        | .inr (frame, rest) =>
            match ← nextItem frame.close true rest with
            | (false, rest) => leave frames rest
            | (true, rest) => do .ok (frame :: frames, ← enter frame rest)
      match next with
      | .error fault => .error fault
      | .ok ([], rest) => .ok rest
      | .ok (frames, rest) => skipWithin fuel frames rest

/--
A field of a record that is being read into a draft: how it is read, and what
becomes of the draft when the field is missing.
-/
structure Field (δ : Type) where
  name : String
  isSet : δ → Bool
  read : δ → Reader δ
  close : δ → Option δ

namespace Field

def required
    {δ α : Type}
    (name : String)
    (get? : δ → Option α)
    (set : δ → α → δ)
    (reader : Reader α) :
    Field δ where
  name := name
  isSet draft := (get? draft).isSome
  read draft fuel bytes := do
    let (value, rest) ← reader fuel bytes
    .ok (set draft value, rest)
  close draft := if (get? draft).isSome then some draft else none

/-- A field that has a value of its own when it is missing. -/
def optional
    {δ α : Type}
    (name : String)
    (get? : δ → Option α)
    (set : δ → α → δ)
    (reader : Reader α)
    (fallback : α) :
    Field δ where
  name := name
  isSet draft := (get? draft).isSome
  read draft fuel bytes := do
    let (value, rest) ← reader fuel bytes
    .ok (set draft value, rest)
  close draft := some (if (get? draft).isSome then draft else set draft fallback)

end Field

def closeAll {δ : Type} (fields : List (Field δ)) (draft : δ) : Except Fault δ :=
  match fields with
  | [] => .ok draft
  | field :: rest =>
      match field.close draft with
      | some draft => closeAll rest draft
      | none => .error .mismatch

/--
The fields of an object after its brace; `left` bounds the number of those to
come.
-/
def members
    {δ : Type}
    (fields : List (Field δ))
    (fuel left : Nat)
    (isFirst : Bool)
    (draft : δ)
    (bytes : List UInt8) :
    Except Fault (δ × List UInt8) :=
  match left with
  | 0 => .error .malformed
  | left + 1 => do
      match ← nextItem '}' isFirst bytes with
      | (false, rest) => do .ok (← closeAll fields draft, rest)
      | (true, bytes) => do
          let bytes ← expect '"' bytes
          let (name, bytes) ← stringAfterQuote bytes
          match fields.find? (·.name == name) with
          | some field =>
              if field.isSet draft then .error .mismatch
              else do
                let bytes ← expect ':' (skipSpace bytes)
                let (draft, bytes) ← field.read draft fuel bytes
                members fields fuel left false draft bytes
          | none => do
              let bytes ← expect ':' (skipSpace bytes)
              members fields fuel left false draft
                (← skipWithin fuel [] bytes)

/-- The fields of a record that is written as an array, after its bracket. -/
def positional
    {δ : Type}
    (fields : List (Field δ))
    (isFirst : Bool)
    (draft : δ) :
    Reader δ := fun fuel bytes =>
  match fields with
  | [] => do .ok (draft, ← expect ']' (skipSpace bytes))
  | field :: others => do
      match ← nextItem ']' isFirst bytes with
      | (false, rest) => do .ok (← closeAll fields draft, rest)
      | (true, bytes) => do
          let (draft, bytes) ← field.read draft fuel bytes
          positional others false draft fuel bytes

def record {δ : Type} (fields : List (Field δ)) (start : δ) : Reader δ :=
  fun fuel bytes =>
    let bytes := skipSpace bytes
    match Scan.optional '{' bytes, Scan.optional '[' bytes with
    | some rest, _ => members fields fuel fuel true start rest
    | none, some rest => positional fields true start fuel rest
    | none, none => .error (mismatched bytes)

/-- The value of a draft that is complete. -/
def finished
    {δ α : Type}
    (value? : δ → Option α)
    (reader : Reader δ) :
    Reader α := fun fuel bytes => do
  let (draft, rest) ← reader fuel bytes
  match value? draft with
  | some value => .ok (value, rest)
  | none => .error .mismatch

/-- The value that whole bytes are read as, with blanks around it. -/
def document {α : Type} (reader : Reader α) (bytes : List UInt8) : Except Fault α := do
  let (value, rest) ← reader (bytes.length + 1) bytes
  if (skipSpace rest).isEmpty then .ok value else .error .malformed

end QuotaRing.Json
