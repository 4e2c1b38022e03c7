import QuotaRing.Pattern.PropertyName
import QuotaRing.Pattern.Reader
import QuotaRing.Pattern.Regex
import QuotaRing.Text.Decimal

/-!
# The syntax of patterns

Patterns have alternatives, concatenation, repetition, groups with flags,
bracketed sets with set operations, escapes and assertions.  They have neither
references to groups nor look-around, and so can be matched in time linear in
the text.  A pattern is refused when it is not well formed, when it could match
part of a character, when it is nested too deeply, or when its automaton would
be too large.
-/

namespace QuotaRing.Pattern

/-- The flags in force at a place of a pattern. -/
structure Flags where
  ignoreCase : Bool := false
  multiLine : Bool := false
  dotAll : Bool := false
  unicode : Bool := true
  /-- Blanks and comments in the pattern are passed over. -/
  spaced : Bool := false
  crlf : Bool := false

def Flags.set? (flags : Flags) (letter : Char) (value : Bool) : Option Flags :=
  match letter with
  | 'i' => some { flags with ignoreCase := value }
  | 'm' => some { flags with multiLine := value }
  | 's' => some { flags with dotAll := value }
  | 'u' => some { flags with unicode := value }
  | 'x' => some { flags with spaced := value }
  | 'R' => some { flags with crlf := value }
  -- which of several matches is preferred does not matter
  | 'U' => some flags
  | _ => none

def dropComment : List Char → List Char
  | [] => []
  | '\n' :: rest => rest
  | _ :: rest => dropComment rest

theorem length_dropComment_le (text : List Char) :
    (dropComment text).length ≤ text.length := by
  fun_induction dropComment text with
  | case1 => exact Nat.le_refl _
  | case2 rest => exact Nat.le_succ _
  | case3 first rest other ih => exact Nat.le_succ_of_le ih

def dropSpace (text : List Char) : List Char :=
  match text with
  | [] => []
  | first :: rest =>
      if Text.isBlank first then dropSpace rest
      else if first == '#' then dropSpace (dropComment rest)
      else text
termination_by text.length
decreasing_by
  · simp
  · have := length_dropComment_le rest
    simp only [List.length_cons]
    omega

/-- Pass over blanks and comments if the flags say so. -/
def Flags.skip (flags : Flags) (text : List Char) : List Char :=
  if flags.spaced then dropSpace text else text

namespace Syntax

open Reader (attempt next pass peeks sized takeIf? takes upTo)

/-- How deeply the parts of a pattern may be nested. -/
def maxDepth : Nat := 250

/-- The most memory, in bytes, that the automaton of a pattern may take. -/
def maxWeight : Nat := 10 * 1024 * 1024

/-- Something that an escape stands for. -/
inductive Escape where
  /-- A character, and whether it is written as the code of one byte. -/
  | literal (character : Char) (isByte : Bool)
  | set (set : CharClass)
  | look (demand : Look)

/-- Digits of base sixteen, as the character with that code. -/
def ofHexadecimal? (digits : List Char) : Option Char := do
  let values ← digits.mapM Text.Hexadecimal.digitValue?
  let code := values.foldl (fun number digit => 16 * number + digit) 0
  if digits.isEmpty then none
  else if code < 0xd800 ∨ (0xdfff < code ∧ code < 0x110000) then
    some (Char.ofNat code)
  else none

def fixedDigits (flags : Flags) : Nat → Reader (List Char)
  | 0 => pure []
  | count + 1 => do
      let first ← next
      if (Text.Hexadecimal.digitValue? first).isNone then failure
      else
        pass flags.skip
        let others ← fixedDigits flags count
        return first :: others

/-- What stands before a closing brace. -/
def braced (flags : Flags) : Nat → Reader (List Char)
  | 0 => failure
  | fuel + 1 => do
      pass flags.skip
      let first ← next
      if first == '\x7d' then return []
      else
        let others ← braced flags fuel
        return first :: others

def hexadecimal (flags : Flags) (count : Nat) : Reader Escape := do
  pass flags.skip
  if ← takes ['\x7b'] then
    let digits ← sized (braced flags)
    pass flags.skip
    return .literal (← ofHexadecimal? digits) false
  else
    let digits ← fixedDigits flags count
    return .literal (← ofHexadecimal? digits) (count == 2)

/-- The set that the name of a property between braces stands for. -/
def namedProperty? (name : List Char) : Option CharClass :=
  match upTo ['!', '='] name with
  | some (kind, value) =>
      (Property.ofValue? kind value).map fun held =>
        .complement (.property held)
  | none =>
      match (upTo [':'] name).or (upTo ['='] name) with
      | some (kind, value) => (Property.ofValue? kind value).map .property
      | none => (Property.named? name).map .property

/-- A set closed under changes of case, if the flags say so. -/
def Flags.close (flags : Flags) (set : CharClass) : CharClass :=
  if flags.ignoreCase then .anyCase set flags.unicode else set

/-- The set that a property is named for by a letter or between braces. -/
def propertySet (flags : Flags) : Reader CharClass := do
  if ← takes ['\x7b'] then
    let name ← sized (braced flags)
    namedProperty? name
  else
    let letter ← next
    if letter == '\\' then failure
    else
      pass flags.skip
      let named ← Property.named? [letter]
      return .property named

/-- The set of a property, after the letter of its escape. -/
def property (flags : Flags) (isNegated : Bool) : Reader Escape := do
  pass flags.skip
  let set ← propertySet flags
  let closed := Flags.close flags set
  if flags.unicode then return .set (if isNegated then .complement closed else closed)
  else failure

def kindSet (flags : Flags) (kind : Kind) (isNegated : Bool) : Option CharClass :=
  let set := CharClass.kind kind flags.unicode
  let set := if isNegated then .complement set else set
  if flags.unicode ∨ set.isAscii then some set else none

/-- The characters in succession that pass a test. -/
def run (flags : Flags) (test : Char → Bool) : Nat → Reader (List Char)
  | 0 => failure
  | fuel + 1 => do
      match ← takeIf? test with
      | none => return []
      | some first =>
          pass flags.skip
          let others ← run flags test fuel
          return first :: others

/-- Whether a character may stand in the name of a word boundary. -/
def isBoundaryName (character : Char) : Bool :=
  character.isAlpha || character == '-'

/-- The word boundary with a name. -/
def namedBoundary? (isFull : Bool) (name : List Char) : Option Look :=
  match String.ofList name with
  | "start" => some (.wordStart isFull)
  | "end" => some (.wordEnd isFull)
  | "start-half" => some (.noWordBefore isFull)
  | "end-half" => some (.noWordAfter isFull)
  | _ => none

/-- Whether a mark comes next before a character that passes a test. -/
def precedes
    (flags : Flags)
    (mark : Char)
    (test : Char → Bool) :
    List Char → Bool
  | [] => false
  | first :: rest => first == mark && (flags.skip rest).head?.any test

/-- Whether a number may begin with a character or after it. -/
def opensNumber (character : Char) : Bool :=
  character.isDigit || Text.isBlank character

/-- The word boundary whose name may follow its letter in braces. -/
def boundary (flags : Flags) : Reader Escape := do
  if ← peeks (precedes flags '\x7b' opensNumber) then
    return .look (.wordBoundary flags.unicode)
  else if ← takes ['\x7b'] then
    pass flags.skip
    let name ← sized (run flags isBoundaryName)
    if ← takes ['\x7d'] then
      return .look (← namedBoundary? flags.unicode name)
    else failure
  else return .look (.wordBoundary flags.unicode)

/-- Whether a character that is no letter or digit may follow a backslash. -/
def isEscapable (character : Char) : Bool :=
  character.toNat < 0x80 && !character.isAlphanum && character != '<' &&
    character != '>'

/-- What a character after a backslash stands for, with what follows it. -/
def escapeAt (flags : Flags) (first : Char) : Reader Escape :=
  let literal (code : Nat) : Reader Escape :=
    return .literal (Char.ofNat code) false
  let kind (kind : Kind) (isNegated : Bool) : Reader Escape := do
    return .set (← kindSet flags kind isNegated)
  let look (demand : Look) : Reader Escape :=
    return .look demand
  match first with
  | 'x' => hexadecimal flags 2
  | 'u' => hexadecimal flags 4
  | 'U' => hexadecimal flags 8
  | 'p' => property flags false
  | 'P' => property flags true
  | 'd' => kind .digit false
  | 'D' => kind .digit true
  | 's' => kind .space false
  | 'S' => kind .space true
  | 'w' => kind .word false
  | 'W' => kind .word true
  | 'a' => literal 0x07
  | 'f' => literal 0x0c
  | 't' => literal 0x09
  | 'n' => literal 0x0a
  | 'r' => literal 0x0d
  | 'v' => literal 0x0b
  | 'A' => look .textStart
  | 'z' => look .textEnd
  | 'b' => boundary flags
  | 'B' => look (.noWordBoundary flags.unicode)
  | '<' => look (.wordStart flags.unicode)
  | '>' => look (.wordEnd flags.unicode)
  | _ => if isEscapable first then return .literal first false else failure

/-- What the text after a backslash stands for. -/
def escape (flags : Flags) : Reader Escape := do
  escapeAt flags (← next)

/-- The set of one character that stands for itself. -/
def literalSet
    (flags : Flags)
    (character : Char)
    (isByte : Bool) :
    Option CharClass :=
  if !flags.unicode ∧ isByte ∧ 0x7f < character.toNat then none
  else some (Flags.close flags (.single character))

/-! ## Bracketed sets -/

/-- The operations that join sets between brackets. -/
inductive SetOp where
  | intersection
  | difference
  | symmetricDifference

def SetOp.apply (op : SetOp) (flags : Flags) (left right : CharClass) : CharClass :=
  let left := Flags.close flags left
  let right := Flags.close flags right
  match op with
  | intersection => .intersection left right
  | difference => .difference left right
  | symmetricDifference => .symmetricDifference left right

/-- A set that is being read, and how deeply its parts are nested. -/
structure Items where
  set : CharClass := .empty
  count : Nat := 0
  depth : Nat := 0

def Items.add (items : Items) (set : CharClass) (depth : Nat) : Items where
  set := if items.count = 0 then set else .union items.set set
  count := items.count + 1
  depth := max items.depth depth

/-- How deeply a set of parts is nested. -/
def Items.totalDepth (items : Items) : Nat :=
  if 1 < items.count then items.depth + 1 else items.depth

/-- The class that stands between colons. -/
def asciiSet? : List Char → Option CharClass
  | '^' :: name => (CharClass.asciiNamed? (String.ofList name)).map .complement
  | name => CharClass.asciiNamed? (String.ofList name)

/-- A class between colons, with the bracket that ends it. -/
def asciiClass : Reader CharClass := do
  if ← takes [':'] then
    let inner ← upTo [':']
    let set ← asciiSet? inner
    if ← takes [']'] then return set else failure
  else failure

/-- A character or a set that is part of a set. -/
inductive Item where
  | literal (character : Char)
  | set (set : CharClass)

def Item.toSet : Item → CharClass
  | literal character => .single character
  | set held => held

def literalItem (flags : Flags) (character : Char) : Reader Item :=
  if !flags.unicode ∧ 0x7f < character.toNat then failure
  else return .literal character

def setItemAt (flags : Flags) (first : Char) : Reader Item := do
  if first == '\\' then
    match ← escape flags with
    | .literal character _ => literalItem flags character
    | .set set => return .set set
    | .look _ => failure
  else literalItem flags first

def setItem (flags : Flags) : Reader Item := do
  setItemAt flags (← next)

/-- Whether a hyphen before a character is none of a range. -/
def endsRange (character : Char) : Bool :=
  character == ']' || character == '-'

/-- The set of an item, or of the range that it opens. -/
def setRangeFrom (flags : Flags) (first : Item) : Reader CharClass := do
  pass flags.skip
  if ← peeks (precedes flags '-' endsRange) then return first.toSet
  else if ← takes ['-'] then
    pass flags.skip
    let last ← setItem flags
    match first, last with
    | .literal first, .literal last =>
        if first ≤ last then return .range first last else failure
    | _, _ => failure
  else return first.toSet

/-- A character, a range or a set between brackets. -/
def setRange (flags : Flags) : Reader CharClass := do
  setRangeFrom flags (← setItem flags)

/-- The start of a set: its negation, and what stands for itself there. -/
def openSet (flags : Flags) : Reader (Bool × Items) := do
  pass flags.skip
  let isNegated ← takes ['^']
  pass flags.skip
  let hyphens ← sized (run flags (· == '-'))
  let items := hyphens.foldl (fun items hyphen => items.add (.single hyphen) 0) {}
  if items.count = 0 then
    if ← takes [']'] then
      pass flags.skip
      return (isNegated, items.add (.single ']') 0)
    else return (isNegated, items)
  else return (isNegated, items)

/-- What comes next in a set. -/
inductive SetLexeme where
  | close
  | operation (op : SetOp)
  /-- A set between brackets of its own. -/
  | bracket
  | part (set : CharClass)

def setLexeme (flags : Flags) : Reader SetLexeme := do
  if ← takes [']'] then return .close
  else if ← takes ['&', '&'] then return .operation .intersection
  else if ← takes ['-', '-'] then return .operation .difference
  else if ← takes ['~', '~'] then return .operation .symmetricDifference
  else if ← takes ['['] then
    match ← attempt asciiClass with
    | some set => return .part set
    | none => return .bracket
  else return .part (← setRange flags)

/-- The set joined from what stands before an operation and after it. -/
def joined
    (flags : Flags)
    (before? : Option (SetOp × CharClass × Nat))
    (items : Items) :
    CharClass × Nat :=
  match before? with
  | none => (items.set, items.totalDepth)
  | some (op, left, depth) =>
      (op.apply flags left items.set, max depth items.totalDepth + 1)

/-- The whole set, with its depth, when its parts have been read. -/
def closedSet?
    (flags : Flags)
    (isNegated : Bool)
    (before? : Option (SetOp × CharClass × Nat))
    (items : Items) :
    Option (CharClass × Nat) :=
  let (set, depth) := joined flags before? items
  let closed := Flags.close flags set
  let set := if isNegated then .complement closed else closed
  if !flags.unicode ∧ !set.isAscii then none else some (set, depth + 1)

/--
The rest of a bracketed set, with its depth.  `before?` is what stands before
the last operation.
-/
def setBody
    (flags : Flags)
    (isNegated : Bool) :
    Nat → Option (SetOp × CharClass × Nat) → Items → Reader (CharClass × Nat)
  | 0, _, _ => failure
  | fuel + 1, before?, items => do
      pass flags.skip
      match ← setLexeme flags with
      | .close => closedSet? flags isNegated before? items
      | .operation op =>
          let (left, depth) := joined flags before? items
          setBody flags isNegated fuel (some (op, left, depth)) {}
      | .bracket =>
          let (innerNegated, inner) ← openSet flags
          let (set, depth) ← setBody flags innerNegated fuel none inner
          setBody flags isNegated fuel before? (items.add set depth)
      | .part set => setBody flags isNegated fuel before? (items.add set 0)

def bracketed (flags : Flags) : Reader (CharClass × Nat) := do
  let (isNegated, items) ← openSet flags
  sized fun fuel => setBody flags isNegated fuel none items

/-! ## Repetition -/

/-- A decimal number between blanks, in the braces of a repetition. -/
def count (flags : Flags) : Reader Nat := do
  pass Text.dropBlanks
  let digits ← sized (run flags Char.isDigit)
  pass Text.dropBlanks
  pass flags.skip
  let number ← Text.Decimal.natural? digits
  if number < 0x100000000 then return number else failure

/-- The bounds of a repetition, after its brace. -/
def bounds (flags : Flags) : Reader (Nat × Option Nat) := do
  pass flags.skip
  let least ← count flags
  if ← takes [','] then
    pass flags.skip
    if ← takes ['\x7d'] then
      pass flags.skip
      return (least, none)
    else
      let most ← count flags
      if ← takes ['\x7d'] then
        pass flags.skip
        if least ≤ most then return (least, some most) else failure
      else failure
  else
    if ← takes ['\x7d'] then
      pass flags.skip
      return (least, some least)
    else failure

/-! ## Expressions -/

/-- A part of a pattern that has been read. -/
structure Part where
  regex : Regex
  depth : Nat
  /-- Whether a repetition may follow. -/
  isRepeatable : Bool := true

/-- The parts of a concatenation, of which the last is given first. -/
def concatenation (reversed : List Part) : Part :=
  match reversed with
  | [] => { regex := .empty, depth := 0 }
  | [part] => part
  | last :: others =>
      { regex := others.foldl (fun regex part => .seq part.regex regex) last.regex
        depth := 1 + others.foldl (fun depth part => max depth part.depth) last.depth }

/-- The alternatives, of which the last is given first. -/
def alternation (reversed : List Part) : Part :=
  match reversed with
  | [] => { regex := .empty, depth := 0 }
  | [part] => part
  | last :: others =>
      { regex := others.foldl (fun regex part => .alt part.regex regex) last.regex
        depth := 1 + others.foldl (fun depth part => max depth part.depth) last.depth }

/-- Whether a character may stand in the name of a group. -/
def isGroupName (isFirst : Bool) (character : Char) : Bool :=
  character == '_' || Unicode.isAlphabetic character ||
    (!isFirst && (character == '.' || character == '[' || character == ']' ||
      Unicode.inCategory "N" character))

/-- The name of a group up to its closing angle bracket. -/
def groupName : Reader String := do
  let name ← upTo ['>']
  match name with
  | [] => failure
  | first :: others =>
      if isGroupName true first && others.all (isGroupName false) then
        return String.ofList name
      else failure

/--
The flags up to a colon or a parenthesis, whether there are any, and what ends
them.  `seen` holds the letters before.
-/
def flagLetters
    (flags : Flags)
    (isNegated : Bool)
    (seen : List Char) :
    Reader (Flags × Bool × Char)
  | [] => none
  | first :: rest =>
      if first == ':' ∨ first == ')' then
        if seen.head? = some '-' then none
        else some ((flags, !seen.isEmpty, first), rest)
      else if seen.contains first then none
      else if first == '-' then flagLetters flags true (first :: seen) rest
      else do
        let flags ← flags.set? first (!isNegated)
        flagLetters flags isNegated (first :: seen) rest

/-- What stands after an opening parenthesis. -/
inductive Opening where
  /-- A group, with the flags inside it and its name if it has one. -/
  | group (flags : Flags) (name? : Option String)
  /-- Flags for what follows. -/
  | setFlags (flags : Flags)

/-- Look-around is refused, since it opens with what is no flag and no name. -/
def opening (flags : Flags) : Reader Opening := do
  pass flags.skip
  if ← takes ['?'] then
    if ← takes ['P', '<'] then return .group flags (some (← groupName))
    else if ← takes ['<'] then return .group flags (some (← groupName))
    else
      let (inner, hasFlags, mark) ← flagLetters flags false []
      if mark == ':' then return .group inner none
      else if hasFlags then return .setFlags inner
      else failure
  else return .group flags none

/-- What is known at a place of a pattern. -/
structure Context where
  flags : Flags := {}
  /-- The names of the groups before. -/
  names : List String := []

/-- The assertion of a caret. -/
def caret (flags : Flags) : Look :=
  if flags.multiLine then
    if flags.crlf then .lineStartCrlf else .lineStart
  else .textStart

/-- The assertion of a dollar sign. -/
def dollar (flags : Flags) : Look :=
  if flags.multiLine then
    if flags.crlf then .lineEndCrlf else .lineEnd
  else .textEnd

/-- The set of a dot. -/
def dot (flags : Flags) : Option CharClass :=
  if !flags.unicode then none
  else if flags.dotAll then some .all
  else if flags.crlf then
    some (.complement (.union (.single '\n') (.single '\r')))
  else some (.complement (.single '\n'))

/-- The part that repeats the last of the parts before. -/
def repeated
    (parts : List Part)
    (least : Nat)
    (most? : Option Nat) :
    Option (List Part) :=
  match parts with
  | part :: others =>
      if part.isRepeatable then
        some ({ regex := .times part.regex least most?, depth := part.depth + 1 } :: others)
      else none
  | [] => none

/-- What comes next in a group. -/
inductive Lexeme where
  | bar
  | part (part : Part)
  | repetition (least : Nat) (most? : Option Nat)
  | opening (opening : Opening)

def Lexeme.one? (set? : Option CharClass) : Option Lexeme :=
  set?.map fun set => .part { regex := .one set, depth := 0 }

def Lexeme.look (demand : Look) : Lexeme :=
  .part { regex := .look demand, depth := 0 }

def Lexeme.ofEscape? (flags : Flags) : Escape → Option Lexeme
  | .literal character isByte => one? (literalSet flags character isByte)
  | .set set => one? (some set)
  | .look demand => some (look demand)

/-- What a character and what follows it stand for. -/
def lexemeAt (flags : Flags) (first : Char) : Reader Lexeme :=
  match first with
  | '|' => return .bar
  | '(' => do return .opening (← opening flags)
  | '[' => do
      let (set, depth) ← bracketed flags
      return .part { regex := .one set, depth := depth }
  | '?' => return .repetition 0 (some 1)
  | '*' => return .repetition 0 none
  | '+' => return .repetition 1 none
  | '\x7b' => do
      let (least, most?) ← bounds flags
      return .repetition least most?
  | '\\' => do Lexeme.ofEscape? flags (← escape flags)
  | '.' => Lexeme.one? (dot flags)
  | '^' => return .look (caret flags)
  | '$' => return .look (dollar flags)
  | _ => Lexeme.one? (literalSet flags first false)

def lexeme (flags : Flags) : Reader Lexeme := do
  lexemeAt flags (← next)

/-- Whether a group or the whole pattern ends. -/
def isAtEnd : List Char → Bool
  | [] => true
  | first :: _ => first == ')'

/-- The names of groups with that of one more, if it has a name of its own. -/
def addName? (names : List String) (name? : Option String) : Option (List String) :=
  match name? with
  | none => some names
  | some name => if names.contains name then none else some (name :: names)

/--
The rest of a group or of the whole pattern, up to its closing parenthesis.
The alternatives and the parts read before are given with the last one first.
-/
def level :
    Nat → Context → List Part → List Part → Reader (Part × Context)
  | 0, _, _, _ => failure
  | fuel + 1, context, alternatives, parts => do
      let flags := context.flags
      pass flags.skip
      if ← peeks isAtEnd then
        return (alternation (concatenation parts :: alternatives), context)
      else
        match ← lexeme flags with
        | .bar => level fuel context (concatenation parts :: alternatives) []
        | .part part => level fuel context alternatives (part :: parts)
        | .repetition least most? =>
            let parts ← repeated parts least most?
            -- a repetition that is reluctant matches no other texts
            let _ ← takes ['?']
            level fuel context alternatives parts
        | .opening (.setFlags inner) =>
            level fuel { context with flags := inner } alternatives
              ({ regex := .empty, depth := 0, isRepeatable := false } :: parts)
        | .opening (.group inner name?) =>
            let names ← addName? context.names name?
            let (part, after) ← level fuel { flags := inner, names := names } [] []
            -- only a closing parenthesis can be next
            let _ ← next
            level fuel { flags := flags, names := after.names } alternatives
              ({ regex := part.regex, depth := part.depth + 1 } :: parts)

/-! ## Size -/

/--
About how many bytes the paths through a set take between the two states where
they begin and end.  Texts are read from either end, and the automaton that reads
them backward is the larger.
-/
def pathsWeight : CharClass → Nat
  | .empty => 0
  | .range _ last => if last.toNat < 0x80 then 8 else 136
  | .kind .word true => 50252
  | .kind .digit true => 5120
  | .kind .space true => 616
  | .kind _ false => 24
  | .property _ => 12000
  | .union left right => pathsWeight left + pathsWeight right
  | .intersection left right => max (pathsWeight left) (pathsWeight right)
  | .difference left right => pathsWeight left + pathsWeight right
  | .symmetricDifference left right => pathsWeight left + pathsWeight right
  | .complement inner => max 936 (pathsWeight inner)
  | .anyCase inner _ => 2 * pathsWeight inner

/-- About how many bytes the states for one character of a set take. -/
def setWeight : CharClass → Nat
  | .range first last =>
      -- a single character needs no states around its bytes, and one range of
      -- bytes is held by its state without a path of its own
      if first = last then 32 * first.utf8Size
      else if last.toNat < 0x80 then 64
      else 64 + pathsWeight (.range first last)
  | set => 64 + pathsWeight set

/-- About how many bytes the automaton of an expression takes. -/
def weight : Regex → Nat
  | .empty => 32
  | .one set => setWeight set
  | .look _ => 32
  | .seq first second => weight first + weight second
  | .alt left right => 40 + weight left + weight right
  | .times inner least none => 40 + weight inner * max 1 least
  | .times inner least (some most) =>
      -- only a copy that may be left out has a state that leads around it
      32 + weight inner * most + 40 * (most - least)

end Syntax

/-- The expression that a pattern is, if it is accepted. -/
def Regex.ofPattern? (pattern : List Char) : Option Regex := do
  match ← Syntax.level (pattern.length + 1) {} [] [] pattern with
  | ((part, _), []) =>
      if part.depth ≤ Syntax.maxDepth ∧
          Syntax.weight part.regex ≤ Syntax.maxWeight then
        some part.regex
      else none
  | _ => none

/-- The pattern that matches whole texts where the given one matches. -/
def anchored (pattern : String) : List Char :=
  ['^', '(', '?', ':'] ++ pattern.toList ++ [')', '$']

end QuotaRing.Pattern
