import QuotaRing.Net.AddressReader

/-!
# Who may use the store of a node

A policy admits every caller or those on a list of addresses.  Addresses are
compared in their canonical form, so that an address of version four and the
one mapped from it are the same caller.
-/

namespace QuotaRing.Cluster

open QuotaRing.Net (Ip)

/-- The callers that a node admits to its store. -/
inductive Access where
  | everyone
  | listed (addresses : List Ip)
  deriving DecidableEq

/-- What the names of hosts stand for; `none` for a name that is not known. -/
abbrev Resolver : Type :=
  String → Option (List Ip)

/-- The resolver that knows only the name that every host has for itself. -/
def ownHost : Resolver := fun name =>
  if name = "localhost" then some [.loopback, .v6 1] else none

namespace Access

/-- The policy that admits exactly the given addresses. -/
def ofList (addresses : List Ip) : Access :=
  .listed (addresses.map Ip.canonical)

def nobody : Access :=
  .listed []

/-- The addresses of a host, which is an address itself or a known name. -/
def addresses? (resolver : Resolver) (host : String) : Option (List Ip) :=
  match Ip.ofText? host with
  | some ip => some [ip]
  | none => resolver host

/--
The policy that admits the given hosts, or the first of them that has no
address.
-/
def resolve (resolver : Resolver) (hosts : List String) : Except String Access := do
  let addresses ← hosts.mapM fun host =>
    match addresses? resolver host with
    | some found => .ok found
    | none => .error host
  .ok (ofList addresses.flatten)

def admits (access : Access) (caller : Ip) : Bool :=
  match access with
  | everyone => true
  | listed addresses => addresses.contains caller.canonical

/-- The listed addresses in order, each once; `none` if all are admitted. -/
def sorted? : Access → Option (List Ip)
  | everyone => none
  | listed addresses =>
      some (addresses.eraseDups.mergeSort fun left right =>
        left.rank ≤ right.rank)

end Access

end QuotaRing.Cluster
