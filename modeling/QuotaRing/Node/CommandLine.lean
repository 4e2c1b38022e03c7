import QuotaRing.Net.AddressReader
import QuotaRing.Node.Settings

/-!
# The command line

Settings are given by named options, each followed by its value or joined to
it by an equals sign.  What stands after an option as its value is checked
when the next option begins or the line ends; words that no option accounts
for are refused before that.
-/

namespace QuotaRing.Node

open QuotaRing.Net (Endpoint)

/-- Why a command line is not carried out. -/
inductive Refusal where
  | unknownArgument
  /-- An option has no value, or an empty one where a file is named. -/
  | missingValue
  | unusableValue
  /-- An option is given twice that may be given once. -/
  | repeatedOption
  /-- A flag is joined to a value. -/
  | unneededValue
  /-- The caller asks for help. -/
  | help
  deriving DecidableEq, Repr

namespace CommandLine

/-- The options that take a value. -/
inductive Knob where
  | listenAddress
  | listenPort
  | nodeAddress
  | clusterMembers
  | allowedHosts
  | hostKey
  | remoteTimeout
  | remoteMaxAttempts
  | damagedCooldown
  | maxObjectSize
  | expireInterval
  | limitsConfig
  deriving DecidableEq, Repr

namespace Knob

def all : List Knob :=
  [listenAddress, listenPort, nodeAddress, clusterMembers, allowedHosts,
    hostKey, remoteTimeout, remoteMaxAttempts, damagedCooldown, maxObjectSize,
    expireInterval, limitsConfig]

def name : Knob → String
  | listenAddress => "listen-address"
  | listenPort => "listen-port"
  | nodeAddress => "node-address"
  | clusterMembers => "cluster-members"
  | allowedHosts => "allowed-hosts"
  | hostKey => "host-key"
  | remoteTimeout => "remote-timeout-ms"
  | remoteMaxAttempts => "remote-max-attempts"
  | damagedCooldown => "damaged-cooldown-secs"
  | maxObjectSize => "max-object-size"
  | expireInterval => "expire-interval-secs"
  | limitsConfig => "limits-config"

def purpose : Knob → String
  | listenAddress => "IP Address to listen on"
  | listenPort => "Port to bind Dipper HTTP API server to"
  | nodeAddress =>
      "Address other members use to reach this node (defaults to the listen address)"
  | clusterMembers =>
      "Datastore members as host:port (e.g., 10.0.0.1:8410,10.0.0.2:8410). If empty, runs as a single node."
  | allowedHosts => "Hosts allowed to call the datastore endpoints"
  | hostKey => "Key identifying this node to its peers (generated if absent)"
  | remoteTimeout => "Timeout in milliseconds for one datastore call to a peer"
  | remoteMaxAttempts => "Most peers tried for one datastore call"
  | damagedCooldown => "Seconds an unreachable peer is tried last"
  | maxObjectSize => "Largest object accepted from a peer, in bytes"
  | expireInterval => "Seconds between sweeps of expired entries"
  | limitsConfig => "Path to the JSON rate limiting configuration"

/-- Whether an option adds to what it was given before. -/
def isList : Knob → Bool
  | clusterMembers => true
  | allowedHosts => true
  | _ => false

end Knob

/-- The flag that takes no value, besides the one for help. -/
def everyoneFlag : String := "allow-all-hosts"

def parts (text : String) : List String :=
  let split := text.toList.foldr
    (fun character (first, others) =>
      if character = ',' then ([], first :: others)
      else (character :: first, others))
    (([], []) : List Char × List (List Char))
  (split.1 :: split.2).map String.ofList

def usable {α : Type} (value? : Option α) : Except Refusal α :=
  match value? with
  | some value => .ok value
  | none => .error .unusableValue

/-- A natural number of 64 bits. -/
def wide (text : String) : Except Refusal Nat :=
  usable (Text.Decimal.unsigned? 0xffffffffffffffff text.toList)

/-- A port, which is read as a signed number. -/
def port (text : String) : Except Refusal UInt16 :=
  usable (((Text.Decimal.signed? text.toList).filter fun number =>
    0 ≤ number.toInt ∧ number.toInt < 0x10000).map fun number =>
      UInt16.ofNat number.toInt.toNat)

def Knob.set
    (knob : Knob)
    (settings : Settings)
    (text : String) :
    Except Refusal Settings :=
  match knob with
  | .listenAddress => .ok { settings with listenAddress := text }
  | .listenPort => do .ok { settings with listenPort := ← port text }
  | .nodeAddress => do
      .ok { settings with
        nodeAddress? := some (← usable (Endpoint.ofText? text)) }
  | .clusterMembers => do
      let added ← (parts text).mapM fun part => usable (Endpoint.ofText? part)
      .ok { settings with members := settings.members ++ added }
  | .allowedHosts =>
      .ok { settings with allowedHosts := settings.allowedHosts ++ parts text }
  | .hostKey => .ok { settings with hostKey? := some text }
  | .remoteTimeout => do
      .ok { settings with attemptMillis := (← wide text).toUInt64 }
  | .remoteMaxAttempts => do .ok { settings with maxAttempts := ← wide text }
  | .damagedCooldown => do
      .ok { settings with cooldownSeconds := (← wide text).toUInt64 }
  | .maxObjectSize => do .ok { settings with maxObject := ← wide text }
  | .expireInterval => do
      .ok { settings with sweepSeconds := (← wide text).toUInt64 }
  | .limitsConfig =>
      if text.isEmpty then .error .missingValue
      else .ok { settings with limitsFile? := some text }

/-- How far a command line has been read. -/
structure Progress where
  settings : Settings
  /-- The options given that may not be given again. -/
  given : List Knob
  /-- The last option, with its value once that has been met. -/
  open? : Option (Knob × Option String)

namespace Progress

/-- Take the value of an option into the settings. -/
def take
    (progress : Progress)
    (knob : Knob)
    (value? : Option String) :
    Except Refusal Progress :=
  match value? with
  | none => .error .missingValue
  | some value =>
      if progress.given.contains knob then .error .repeatedOption
      else do
        .ok
          { settings := ← knob.set progress.settings value
            given :=
              if knob.isList then progress.given else knob :: progress.given
            open? := none }

/-- Take the value of the last option, if one is open. -/
def settle (progress : Progress) : Except Refusal Progress :=
  match progress.open? with
  | none => .ok progress
  | some (knob, value?) => progress.take knob value?

def raise (progress : Progress) : Except Refusal Progress := do
  let progress ← progress.settle
  if progress.settings.allowAllHosts then .error .repeatedOption
  else
    .ok { progress with
      settings := { progress.settings with allowAllHosts := true } }

/-- Begin an option, whose value may be joined to it. -/
def begin
    (progress : Progress)
    (knob : Knob)
    (joined? : Option String) :
    Except Refusal Progress := do
  let progress ← progress.settle
  match joined? with
  | some value => progress.take knob (some value)
  | none => .ok { progress with open? := some (knob, none) }

end Progress

/-- A word of a command line. -/
inductive Word where
  /-- Two dashes alone, after which no options come. -/
  | terminator
  | long (name : String) (joined? : Option String)
  | short (letters : List Char)
  | plain (text : String)
  deriving DecidableEq

def Word.ofText (text : String) : Word :=
  match text.toList with
  | ['-', '-'] => .terminator
  | '-' :: '-' :: rest =>
      let name := rest.takeWhile (· != '=')
      .long (String.ofList name)
        (((rest.drop name.length).head?).map fun _ =>
          String.ofList (rest.drop (name.length + 1)))
  | '-' :: first :: rest => .short (first :: rest)
  | _ => .plain text

def readLong
    (progress : Progress)
    (name : String)
    (joined? : Option String) :
    Except Refusal Progress :=
  match Knob.all.find? (·.name == name) with
  | some knob => progress.begin knob joined?
  | none =>
      if name == everyoneFlag ∨ name == "help" then
        if joined?.isSome then .error .unneededValue
        else if name == everyoneFlag then progress.raise
        else do
          let _ ← progress.settle
          .error .help
      else .error .unknownArgument

def readWord (progress : Progress) (word : Word) : Except Refusal Progress :=
  match word with
  | .long name joined? => readLong progress name joined?
  | .short letters =>
      if letters.head? = some 'h' then do
        let _ ← progress.settle
        .error .help
      else .error .unknownArgument
  | .plain text =>
      match progress.open? with
      | some (knob, none) =>
          .ok { progress with open? := some (knob, some text) }
      | _ => .error .unknownArgument
  | .terminator => .error .unknownArgument

/-- Read the words from where a command line has been read to. -/
def readFrom (progress : Progress) : List String → Except Refusal Settings
  | [] => progress.settle.map Progress.settings
  | text :: rest =>
      match Word.ofText text, rest with
      | .terminator, [] => progress.settle.map Progress.settings
      | word, rest => do readFrom (← readWord progress word) rest

def read (words : List String) : Except Refusal Settings :=
  readFrom { settings := {}, given := [], open? := none } words

def usage : String :=
  let lines := Knob.all.map fun knob =>
    "      --" ++ knob.name ++ " <VALUE>\n          " ++ knob.purpose ++ "\n"
  "Usage: dipper [OPTIONS]\n\nOptions:\n" ++ String.join lines ++
    "      --" ++ everyoneFlag ++
    "\n          Allow any host to call the datastore endpoints\n" ++
    "  -h, --help\n          Print help\n"

end CommandLine

/-- What the caller is told whose command line is refused. -/
def Refusal.message : Refusal → String
  | unknownArgument => "unexpected argument found"
  | missingValue => "a value is required but none was supplied"
  | unusableValue => "invalid value"
  | repeatedOption => "an argument cannot be used multiple times"
  | unneededValue => "unexpected value for an argument"
  | help => CommandLine.usage

end QuotaRing.Node
