import QuotaRing.Error
import QuotaRing.Json.Reader
import QuotaRing.Json.Value
import QuotaRing.Limit.Config

/-!
# The text of configurations

Configurations are written in JSON.  Reading checks the shape alone; loading
also accepts or refuses what was read.
-/

namespace QuotaRing.Limit

/-- A limit of which not all fields have been read. -/
structure DefinitionDraft where
  id? : Option String := none
  uri? : Option String := none
  pattern? : Option String := none
  methods? : Option (List Method) := none
  unit? : Option TimeUnit := none
  value? : Option Nat := none

namespace DefinitionDraft

def fields : List (Json.Field DefinitionDraft) :=
  [.required "id" id? (fun draft id => { draft with id? := some id })
      Json.string,
    .required "uri" uri? (fun draft uri => { draft with uri? := some uri })
      Json.string,
    .required "uri_regex" pattern?
      (fun draft pattern => { draft with pattern? := some pattern })
      Json.string,
    .required "http_methods" methods?
      (fun draft methods => { draft with methods? := some methods })
      (Json.array (Json.variant Method.named?)),
    .required "unit" unit?
      (fun draft unit => { draft with unit? := some unit })
      (Json.variant TimeUnit.named?),
    .required "value" value?
      (fun draft value => { draft with value? := some value })
      (Json.naturalBelow 0x100000000)]

def finish? (draft : DefinitionDraft) : Option Definition := do
  some
    { id := ← draft.id?
      uri := ← draft.uri?
      pattern := ← draft.pattern?
      methods := ← draft.methods?
      unit := ← draft.unit?
      value := UInt32.ofNat (← draft.value?) }

end DefinitionDraft

def Definition.reader : Json.Reader Definition :=
  Json.finished DefinitionDraft.finish? (Json.record DefinitionDraft.fields {})

/-- A group of which not all fields have been read. -/
structure GroupDraft where
  id? : Option String := none
  isDefault? : Option Bool := none
  callers? : Option (List String) := none
  limits? : Option (List Definition) := none

namespace GroupDraft

def fields : List (Json.Field GroupDraft) :=
  [.required "id" id? (fun draft id => { draft with id? := some id })
      Json.string,
    .optional "default" isDefault?
      (fun draft isDefault => { draft with isDefault? := some isDefault })
      Json.bool false,
    .optional "groups" callers?
      (fun draft callers => { draft with callers? := some callers })
      (Json.array Json.string) [],
    .optional "limits" limits?
      (fun draft limits => { draft with limits? := some limits })
      (Json.array Definition.reader) []]

def finish? (draft : GroupDraft) : Option Group := do
  some
    { id := ← draft.id?
      isDefault := ← draft.isDefault?
      callers := ← draft.callers?
      limits := ← draft.limits? }

end GroupDraft

def Group.reader : Json.Reader Group :=
  Json.finished GroupDraft.finish? (Json.record GroupDraft.fields {})

/-- Read the record that holds the shared limits. -/
def sharedReader : Json.Reader (List Definition) :=
  Json.finished id
    (Json.record
      [.optional "limits" id (fun _ limits => some limits)
        (Json.array Definition.reader) []]
      none)

/-- A configuration of which not all fields have been read. -/
structure ConfigDraft where
  groups? : Option (List Group) := none
  shared? : Option (Option (List Definition)) := none

namespace ConfigDraft

/-- The fields of a configuration in their order. -/
def fields : List (Json.Field ConfigDraft) :=
  [.optional "limit_groups" groups?
      (fun draft groups => { draft with groups? := some groups })
      (Json.array Group.reader) [],
    .optional "global_limit_group" shared?
      (fun draft shared => { draft with shared? := some shared })
      (Json.nullable sharedReader) none]

/-- The configuration whose fields have all been read. -/
def finish? (draft : ConfigDraft) : Option Config := do
  some
    { groups := ← draft.groups?
      shared? := ← draft.shared? }

end ConfigDraft

def Definition.toJson (definition : Definition) : Json.Value :=
  .object
    [("id", .string definition.id),
      ("uri", .string definition.uri),
      ("uri_regex", .string definition.pattern),
      ("http_methods", .strings (definition.methods.map Method.name)),
      ("unit", .string definition.unit.name),
      ("value", .natural definition.value.toNat)]

def Group.toJson (group : Group) : Json.Value :=
  .object
    [("id", .string group.id),
      ("default", .bool group.isDefault),
      ("groups", .strings group.callers),
      ("limits", .array (group.limits.map Definition.toJson))]

namespace Config

def reader : Json.Reader Config :=
  Json.finished ConfigDraft.finish? (Json.record ConfigDraft.fields {})

/-- The configuration that bytes are, accepted or not. -/
def read (bytes : List UInt8) : Except Error Config :=
  match Json.document reader bytes with
  | .ok config => .ok config
  | .error _ => .error .json

/-- The error that reports why a configuration is not accepted. -/
def refusal (fault : ConfigFault) : Error :=
  .configuration fault.message

def load (text : String) : Except Error Config := do
  let config ← read (Text.Utf8.encode text)
  match config.validate with
  | .ok () => .ok config
  | .error fault => .error (refusal fault)

/--
The accepted configuration in a file, given its name and its bytes; `none` for
a file that cannot be read.
-/
def loadFile (path : String) (bytes? : Option (List UInt8)) : Except Error Config :=
  match bytes?.bind Text.Utf8.decode? with
  | some text => load text
  | none => .error (.configuration ("Unable to read rate limit config " ++ path))

/-- A configuration as it is written, with every field. -/
def toJson (config : Config) : Json.Value :=
  let shared : Json.Value :=
    match config.shared? with
    | some limits =>
        .object [("limits", .array (limits.map Definition.toJson))]
    | none => .null
  .object
    [("limit_groups", .array (config.groups.map Group.toJson)),
      ("global_limit_group", shared)]

end Config

end QuotaRing.Limit
