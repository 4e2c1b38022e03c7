import QuotaRing.Pattern.Characters

/-!
# Names of Unicode properties

A property is named by its value alone, or by the kind of property and the
value.  Case, blanks, underscores and hyphens in names do not matter, nor does
a leading `is`.  The kinds that are read are the general category, the script and
the script extensions.  Left out are the kinds `age`, `gcb`, `wb` and `sb`: a
pattern that asks for the version which assigned a character, or for its part in
the breaks between graphemes, words and sentences, is refused.
-/

namespace QuotaRing.Pattern

/-- The form in which names are compared. -/
def normalName (name : List Char) : String :=
  let lower := name.map Char.toLower
  let (hasIs, rest) :=
    match lower with
    | 'i' :: 's' :: rest => (true, rest)
    | _ => (false, lower)
  let kept := rest.filter fun character =>
    character.toNat < 0x80 && character != ' ' && character != '_' &&
      character != '-'
  if hasIs ∧ kept = ['c'] then "isc" else String.ofList kept

/-- The names of the general categories, each followed by its letters. -/
def categoryNames : String :=
  ("c:C other:C cc:Cc control:Cc cntrl:Cc cf:Cf format:Cf cn:Cn " ++
    "unassigned:Cn co:Co privateuse:Co l:L letter:L ll:Ll " ++
    "lowercaseletter:Ll lm:Lm modifierletter:Lm lo:Lo otherletter:Lo lt:Lt " ++
    "titlecaseletter:Lt lu:Lu uppercaseletter:Lu m:M mark:M " ++
    "combiningmark:M mc:Mc spacingmark:Mc me:Me enclosingmark:Me mn:Mn " ++
    "nonspacingmark:Mn n:N number:N nd:Nd decimalnumber:Nd digit:Nd nl:Nl " ++
    "letternumber:Nl no:No othernumber:No p:P punctuation:P punct:P pc:Pc " ++
    "connectorpunctuation:Pc pd:Pd dashpunctuation:Pd pe:Pe " ++
    "closepunctuation:Pe pf:Pf finalpunctuation:Pf pi:Pi " ++
    "initialpunctuation:Pi po:Po otherpunctuation:Po ps:Ps " ++
    "openpunctuation:Ps s:S symbol:S sc:Sc currencysymbol:Sc sk:Sk " ++
    "modifiersymbol:Sk sm:Sm mathsymbol:Sm so:So othersymbol:So z:Z " ++
    "separator:Z zl:Zl lineseparator:Zl zp:Zp paragraphseparator:Zp zs:Zs " ++
    "spaceseparator:Zs")

def categoryNamed? (name : String) : Option String :=
  (categoryNames.splitOn " ").findSome? fun entry =>
    match entry.splitOn ":" with
    | [known, letters] => if known == name then some letters else none
    | _ => none

def generalCategory? (name : String) : Option Property :=
  match name with
  | "any" => some .any
  | "ascii" => some .ascii
  | "assigned" => some .assigned
  | "lc" => some .casedLetter
  | "casedletter" => some .casedLetter
  | _ => (categoryNamed? name).map .category

/-- The property that a character has or has not with a name. -/
def binaryProperty? (name : String) : Option Property :=
  (Unicode.binaryNamed? name).map fun _ => .binary name

def Property.named? (name : List Char) : Option Property :=
  let name := normalName name
  (binaryProperty? name).or
    ((generalCategory? name).or ((Unicode.scriptNamed? name).map .script))

/-- The property with a value, unless its kind is left out or unknown. -/
def Property.ofValue? (kind value : List Char) : Option Property :=
  let value := normalName value
  match normalName kind with
  | "gc" => generalCategory? value
  | "generalcategory" => generalCategory? value
  | "sc" => (Unicode.scriptNamed? value).map .script
  | "script" => (Unicode.scriptNamed? value).map .script
  | "scx" => (Unicode.scriptNamed? value).map .usedIn
  | "scriptextensions" => (Unicode.scriptNamed? value).map .usedIn
  | _ => none

end QuotaRing.Pattern
