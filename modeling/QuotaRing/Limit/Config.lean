import QuotaRing.Limit.Quota
import QuotaRing.Text.Control
import QuotaRing.Text.Quoted
import QuotaRing.Text.Utf8

/-!
# Configurations of limits

A configuration lists groups of limits, each for the callers of some groups,
and limits that all callers share.  It is accepted when the names of groups
and limits can stand in the keys of counters without ambiguity and every limit
names a method.
-/

namespace QuotaRing.Limit

/-- One configured limit. -/
structure Definition where
  id : String
  /-- The pattern of uris in the form that is shown to callers. -/
  uri : String
  /-- The pattern that the whole uri of a request must match. -/
  pattern : String
  methods : List Method
  unit : TimeUnit
  value : UInt32
  deriving DecidableEq

namespace Definition

/-- What decides the accounting of a limit. -/
def quota (definition : Definition) : Quota where
  id := definition.id
  unit := definition.unit
  value := definition.value

/-- Whether a limit counts requests of a method. -/
def appliesTo (definition : Definition) (method : Method) : Bool :=
  definition.methods.any fun named => named == .any || named == method

end Definition

/-- Limits for the callers of some groups. -/
structure Group where
  id : String
  /-- Whether it is for callers to whom no other group applies. -/
  isDefault : Bool
  /-- The groups of callers it is for. -/
  callers : List String
  limits : List Definition
  deriving DecidableEq

/-- A configuration. -/
structure Config where
  groups : List Group
  /-- The limits that all callers share, if they are given. -/
  shared? : Option (List Definition)
  deriving DecidableEq

/-- The most bytes the name of a group or a limit may have. -/
def maxIdBytes : Nat := 128

/-- The name under which the shared limits are counted. -/
def sharedGroup : String := "global"

/-- What a name in a configuration names. -/
inductive Named where
  | group
  | limit
  deriving DecidableEq

def Named.word : Named → String
  | group => "Limit group"
  | limit => "Limit"

/-- Why a configuration is not accepted. -/
inductive ConfigFault where
  | blankId (named : Named)
  | unusableId (named : Named) (id : String)
  | reservedGroup
  | duplicateGroup (id : String)
  | duplicateLimit (group id : String)
  | noMethods (group id : String)
  | badPattern
  deriving DecidableEq

def ConfigFault.message : ConfigFault → String
  | blankId named => named.word ++ " id must not be blank"
  | unusableId named id =>
      named.word ++ " id " ++ Text.Quoted.render id ++
        " must be at most 128 bytes with no ':' or control characters"
  | reservedGroup =>
      "Limit group id " ++ sharedGroup ++ " is reserved for the global limits"
  | duplicateGroup id => "Duplicate limit group id: " ++ id
  | duplicateLimit group id =>
      "Limit group " ++ group ++ " has duplicate limit id " ++ id
  | noMethods group id =>
      "Limit " ++ id ++ " in group " ++ group ++ " names no http methods"
  | badPattern => "Invalid uri regex"

def checkId (named : Named) (id : String) : Except ConfigFault Unit :=
  if Text.isBlankText id then .error (.blankId named)
  else if maxIdBytes < id.utf8ByteSize ∨
      id.toList.any (fun character => character == ':' || Text.isControl character)
  then .error (.unusableId named id)
  else .ok ()

/-- Check the limits of a group; `seen` are the names of those before. -/
def checkLimits
    (group : String)
    (seen : List String) :
    List Definition → Except ConfigFault Unit
  | [] => .ok ()
  | definition :: rest => do
      checkId .limit definition.id
      if seen.contains definition.id then
        .error (.duplicateLimit group definition.id)
      if definition.methods.isEmpty then
        .error (.noMethods group definition.id)
      checkLimits group (definition.id :: seen) rest

/-- Check groups; `seen` are the names of those before. -/
def checkGroups (seen : List String) : List Group → Except ConfigFault Unit
  | [] => .ok ()
  | group :: rest => do
      checkId .group group.id
      if group.id = sharedGroup then .error .reservedGroup
      if seen.contains group.id then .error (.duplicateGroup group.id)
      checkLimits group.id [] group.limits
      checkGroups (group.id :: seen) rest

namespace Config

def empty : Config where
  groups := []
  shared? := none

def shared (config : Config) : List Definition :=
  config.shared?.getD []

/-- Accept a configuration or tell its first fault. -/
def validate (config : Config) : Except ConfigFault Unit := do
  checkGroups [] config.groups
  checkLimits sharedGroup [] config.shared

end Config

end QuotaRing.Limit
