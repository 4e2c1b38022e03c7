import QuotaRing.Limit.Counter
import QuotaRing.Peer.Protocol

/-!
# Asking peers in turn

A command is sent to candidates in turn until one answers.  A peer that could
not be reached counts as damaged for a while, and damaged peers are asked after
the others.  A peer that answers with an error has the last word.
-/

namespace QuotaRing.Peer

open QuotaRing.Limit (Action)
open QuotaRing.Net (Endpoint)

/-- The clock readings until which peers count as damaged. -/
structure Damage where
  marks : List (Endpoint × Int64)

namespace Damage

def none : Damage where
  marks := []

def isDamaged (damage : Damage) (now : Int64) (peer : Endpoint) : Bool :=
  match damage.marks.lookup peer with
  | some limit => now < limit
  | .none => false

def heal (damage : Damage) (peer : Endpoint) : Damage where
  marks := damage.marks.filter fun mark => mark.1 != peer

/-- Count a peer as damaged from `now` on for the time given. -/
def mark (damage : Damage) (now : Int64) (cooldown : Span) (peer : Endpoint) : Damage where
  marks := (peer, Saturating.add now cooldown.millis) :: (damage.heal peer).marks

end Damage

/-- How a node deals with its peers. -/
structure Manner where
  /-- How long one attempt may take. -/
  attemptTime : Span
  /-- How many peers are asked for one command, one at least. -/
  maxAttempts : Nat
  /-- How long a peer counts as damaged. -/
  cooldown : Span
  /-- The name under which the node asks. -/
  hostKey : String

/-- The number of peers that may be asked for one command. -/
def Manner.budget (manner : Manner) : Nat :=
  max 1 manner.maxAttempts

/-- What comes of sending a request. -/
inductive Exchange where
  | answered (status : Nat) (body : List UInt8)
  /-- The peer could not be reached, or did not answer in full or in time. -/
  | failed

/-- The sending of requests, which changes a state of type `σ`. -/
abbrev Network (σ : Type) : Type :=
  Outgoing → StateM σ Exchange

/-- The candidates that are asked, in order. -/
def order
    (manner : Manner)
    (damage : Damage)
    (now : Int64)
    (candidates : List Endpoint) :
    List Endpoint :=
  (candidates.filter (!damage.isDamaged now ·) ++
    candidates.filter (damage.isDamaged now ·)).take manner.budget

/-- The error when no candidate could be reached. -/
def nobodyReachable (key : Store.Key) (asked : List Endpoint) : Error :=
  .transport ("No datastore owner reachable for " ++ key.text ++
    " after trying [" ++ ", ".intercalate (asked.map Endpoint.render) ++ "]")

variable {σ : Type}

/-- What comes of asking one peer; `none` if it could not be reached. -/
def attempt
    (network : Network σ)
    (manner : Manner)
    (trace : String)
    (command : Command)
    (peer : Endpoint) :
    StateM σ (Option (Except Error Outcome)) := do
  match command.request peer manner.hostKey trace with
  | .error (.zonedPeer peer) => pure (some (.error (unusablePeer peer)))
  | .error .forbiddenValue => pure none
  | .ok outgoing =>
      match ← network outgoing with
      | .failed => pure none
      | .answered status body => pure (some (command.outcomeOf peer status body))

/--
Ask peers in turn; `none` if none of them could be reached.  The clock is read
whenever a peer turns out not to be reachable.
-/
def askEach
    (network : Network σ)
    (manner : Manner)
    (clock : σ → Int64)
    (trace : String)
    (command : Command)
    (damage : Damage) :
    List Endpoint → StateM σ (Option (Except Error Outcome) × Damage)
  | [] => pure (none, damage)
  | peer :: rest => do
      match ← attempt network manner trace command peer with
      | none =>
          let now := clock (← get)
          askEach network manner clock trace command
            (damage.mark now manner.cooldown peer) rest
      | some (.ok outcome) => pure (some (.ok outcome), damage.heal peer)
      | some (.error error) => pure (some (.error error), damage)

/--
Send a command to the first candidate that answers, by a clock that may go on
while the node waits for answers.
-/
def askBy
    (network : Network σ)
    (manner : Manner)
    (clock : σ → Int64)
    (trace : String)
    (command : Command)
    (damage : Damage)
    (candidates : List Endpoint) :
    StateM σ (Except Error Outcome × Damage) := fun world =>
  let asked := order manner damage (clock world) candidates
  let ((result?, damage), world) :=
    askEach network manner clock trace command damage asked world
  ((result?.getD (.error (nobodyReachable command.key asked)), damage), world)

/-- Send a command to the first candidate that answers, all at one reading. -/
def ask
    (network : Network σ)
    (manner : Manner)
    (now : Int64)
    (trace : String)
    (command : Command)
    (damage : Damage)
    (candidates : List Endpoint) :
    StateM σ (Except Error Outcome × Damage) :=
  askBy network manner (fun _ => now) trace command damage candidates

end QuotaRing.Peer
