import QuotaRing.Limit.Service
import QuotaRing.Node.Settings
import QuotaRing.Peer.Site

/-!
# Nodes

A node takes part in the store of its cluster, admits some callers to its own
table, and decides on requests by the rules in force.
-/

namespace QuotaRing

open QuotaRing.Cluster (Access Resolver View)
open QuotaRing.Limit (Action Config Datastore Decision Dialect Reports Rules)
open QuotaRing.Net (Endpoint)
open QuotaRing.Node (Settings)
open QuotaRing.Peer (Network Site)

/-- A node of a cluster. -/
structure Node where
  site : Site
  access : Access
  rules : Rules
  /-- The most bytes of an object that a peer sends. -/
  maxObject : Nat

namespace Node

/-- The rules of a configuration, or the error that reports its fault. -/
def compile (dialect : Dialect) (config : Config) : Except Error Rules :=
  match Rules.compile dialect config 0 with
  | .ok rules => .ok rules
  | .error fault => .error (Config.refusal fault)

/-- The node with the given settings, limits and policy. -/
def build
    (dialect : Dialect)
    (settings : Settings)
    (madeUpName : String)
    (config : Config)
    (access : Access) :
    Except Error Node := do
  let address ← settings.nodeAddress
  let rules ← compile dialect config
  .ok
    { site :=
        { table := .empty
          view := .ofMembers address settings.members 0
          manner := settings.manner madeUpName
          damage := .none }
      access := access
      rules := rules
      maxObject := settings.maxObject }

def accessOf (resolver : Resolver) (settings : Settings) : Except Error Access :=
  if settings.allowAllHosts then .ok .everyone
  else
    match Access.resolve resolver settings.allowedHosts with
    | .ok access => .ok access
    | .error host =>
        .error (.configuration ("Unable to resolve allowed host " ++ host))

/--
The configuration that settings name, given what can be read of files; without
a file there are no limits.
-/
def configOf
    (contents? : String → Option (List UInt8))
    (settings : Settings) :
    Except Error Config :=
  match settings.limitsFile? with
  | some file => Config.loadFile file (contents? file)
  | none => .ok .empty

def ofSettings
    (dialect : Dialect)
    (resolver : Resolver)
    (contents? : String → Option (List UInt8))
    (settings : Settings)
    (madeUpName : String) :
    Except Error Node := do
  let access ← accessOf resolver settings
  let config ← configOf contents? settings
  build dialect settings madeUpName config access

/-- Take a new configuration of limits into force, and tell its version. -/
def reconfigure
    (dialect : Dialect)
    (node : Node)
    (config : Config) :
    Except Error (UInt64 × Node) :=
  match node.rules.update dialect config with
  | .ok rules => .ok (rules.version, { node with rules := rules })
  | .error fault => .error (Config.refusal fault)

def withMembers (node : Node) (members : List Endpoint) : Node :=
  { node with site := { node.site with view := node.site.view.update members } }

/-- Take out the entries that no longer live, and tell their number. -/
def sweep (node : Node) (now : Int64) : Nat × Node :=
  let (count, table) := node.site.table.sweep now
  (count, { node with site := { node.site with table := table } })

variable {σ : Type}

/-- Do something with the part of a node in the store of its cluster. -/
def onSite {α : Type} (action : Action (Site × σ) α) : Action (Node × σ) α :=
  fun (node, world) =>
    let (result, (site, world)) := action (node.site, world)
    (result, ({ node with site := site }, world))

/-- Decide on a request and count it. -/
def track
    (network : Network σ)
    (now : Int64)
    (trace subject : String)
    (callers : List String)
    (uri method : String) :
    Action (Node × σ) Decision := fun (node, world) =>
  onSite
    (Limit.track (Site.datastore network now trace) node.rules now subject
      callers uri method)
    (node, world)

/-- Report every limit of the group that applies to a caller. -/
def query
    (network : Network σ)
    (now : Int64)
    (trace subject : String)
    (callers : List String) :
    Action (Node × σ) Reports := fun (node, world) =>
  onSite
    (Limit.query (Site.datastore network now trace) node.rules now subject
      callers)
    (node, world)

end Node

end QuotaRing
