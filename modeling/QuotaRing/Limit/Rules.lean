import QuotaRing.Limit.ConfigText
import QuotaRing.Pattern.Syntax

/-!
# Rules

Rules are an accepted configuration whose patterns have been read.  What a
pattern matches is left to a dialect, so that nothing about limits depends on
it; the one in use is that of regular expressions that match whole uris.
-/

namespace QuotaRing.Limit

/-- For every pattern that is accepted, the texts that it matches. -/
abbrev Dialect : Type :=
  String → Option (String → Bool)

/-- The dialect of regular expressions that match whole texts. -/
def regexDialect : Dialect := fun pattern =>
  (Pattern.Regex.ofPattern? (Pattern.anchored pattern)).map fun regex text =>
    regex.matchesIn text.toList

/-- A limit with what its pattern matches. -/
structure Rule where
  definition : Definition
  accepts : String → Bool

namespace Rule

def compile (dialect : Dialect) (definition : Definition) : Except ConfigFault Rule :=
  match dialect definition.pattern with
  | some accepts => .ok { definition, accepts }
  | none => .error .badPattern

def counts (rule : Rule) (uri : String) (method : Method) : Bool :=
  rule.definition.appliesTo method && rule.accepts uri

end Rule

/-- A group whose limits have been compiled. -/
structure RuleGroup where
  id : String
  isDefault : Bool
  callers : List String
  rules : List Rule

namespace RuleGroup

def compile (dialect : Dialect) (group : Group) : Except ConfigFault RuleGroup := do
  let rules ← group.limits.mapM (Rule.compile dialect)
  .ok { id := group.id, isDefault := group.isDefault, callers := group.callers, rules }

/-- Whether a group is for a caller of some of the given groups. -/
def isFor (group : RuleGroup) (callers : List String) : Bool :=
  callers.any fun caller => group.callers.contains caller

end RuleGroup

/-- The rules in force. -/
structure Rules where
  version : UInt64
  groups : List RuleGroup
  shared : List Rule

namespace Rules

/-- Accept a configuration and read its patterns. -/
def compile
    (dialect : Dialect)
    (config : Config)
    (version : UInt64) :
    Except ConfigFault Rules := do
  config.validate
  let groups ← config.groups.mapM (RuleGroup.compile dialect)
  let shared ← config.shared.mapM (Rule.compile dialect)
  .ok { version, groups, shared }

/--
The rules that take the place of others.  A configuration that is refused
leaves them as they are.
-/
def update
    (rules : Rules)
    (dialect : Dialect)
    (config : Config) :
    Except ConfigFault Rules :=
  compile dialect config (rules.version + 1)

/--
The group that applies to a caller: the first that is for one of the groups of
the caller, and else the first default one.
-/
def groupFor? (rules : Rules) (callers : List String) : Option RuleGroup :=
  (rules.groups.find? (·.isFor callers)).or
    (rules.groups.find? (·.isDefault))

end Rules

end QuotaRing.Limit
