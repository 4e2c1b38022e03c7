import QuotaRing.Node.CommandLine
import QuotaRing.Node.State

/-!
# The program

It reads its settings from the command line and the configuration of limits
from the file that they name, and tells how the node starts or why it cannot.
-/

namespace QuotaRing

def contentsOf (file : String) : IO (Option (List UInt8)) := do
  try
    let bytes ← IO.FS.readBinFile file
    pure (some bytes.toList)
  catch _ =>
    pure none

def startMessage (node : Node) : String :=
  let view := node.site.view
  if 1 < view.members.length then
    "Starting as " ++ view.self.render ++ " in a cluster of [" ++
      ", ".intercalate (view.members.map Net.Endpoint.render) ++ "]"
  else
    "Starting as " ++ view.self.render ++ " in single-node mode"

/-- Check the settings, and tell how the node starts or why it cannot. -/
def start (settings : Node.Settings) : IO UInt32 := do
  let contents? ←
    match settings.limitsFile? with
    | some file => contentsOf file
    | none => pure none
  let started : Except Error Node := do
    let _ ← settings.listenSocket
    Node.ofSettings Limit.regexDialect Cluster.ownHost (fun _ => contents?) settings
      "node"
  match started with
  | .ok node => do
      IO.println (startMessage node)
      pure 0
  | .error error => do
      IO.eprintln ("Error: " ++ error.message)
      pure 1

end QuotaRing

/-- Run the program on the words of its command line. -/
def main (words : List String) : IO UInt32 := do
  match QuotaRing.Node.CommandLine.read words with
  | .ok settings => QuotaRing.start settings
  | .error .help => do
      IO.println QuotaRing.Node.CommandLine.usage
      pure 0
  | .error refusal => do
      IO.eprintln ("error: " ++ refusal.message)
      pure 2
