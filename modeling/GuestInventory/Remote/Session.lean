import GuestInventory.Remote.Connection
import GuestInventory.Remote.Endpoint

/-!
A session with the daemon: authentication, opening, the four questions it answers about running
domains, and closing.
-/
namespace GuestInventory.Remote.Session

open Connection

/-- Passes if the daemon asks for no authentication, or if polkit lets the caller in. -/
def authenticate : Dialogue Unit := do
  let offered ← request .authList .void SchemeList.read
  if offered.schemes.isEmpty || offered.schemes.contains .none then return
  if offered.schemes.contains .polkit then
    let outcome ← request .authPolkit .void PolkitOutcome.read
    if outcome.complete = 0 then throw .polkitIncomplete
    return
  throw (.noScheme offered.schemes)

/-- Authenticates and opens `uri` over a connection. -/
def start (uri : String) : Dialogue Unit := do
  authenticate
  let args : OpenArgs := { name := openedName uri, flags := 0 }
  blaming .openRefused (request .connectOpen args.datum (pure ()))
  modify (note (.opened uri))

def domainCount : Dialogue Int32 := do
  return (← request .connectNumOfDomains .void DomainCount.read).count

/-- Ids of the running domains, in the daemon's order. -/
def domainIds : Dialogue (List Int32) := do
  let count ← domainCount
  if count ≤ 0 then return []
  let args : ListArgs := { maximum := min count (Int32.ofNat domainMaximum) }
  return (← request .connectListDomains args.datum DomainIds.read).ids

def lookup (id : Int32) : Dialogue Domain := do
  let args : LookupArgs := { id }
  return (← request .domainLookupById args.datum FoundDomain.read).domain

def interfaces (domain : Domain) (source : AddressSource) : Dialogue (List Interface) := do
  let args : AddressesArgs := { domain, source, flags := 0 }
  return (← request .domainInterfaceAddresses args.datum InterfaceList.read).interfaces

/-- Leaves the socket as it is when the daemon refuses. -/
def finish : Dialogue Unit := do
  blaming .closeRefused (request .connectClose .void (pure ()))
  shutdown

/-- An attempt to connect that failed, and the connection if a socket was reached. -/
structure Refusal where
  cause : Error
  connection : Option Connection

/-- Connects to the socket that `uri` stands for and opens a session over it. -/
def connect (host : Host) (uri : String) : Except Refusal Connection :=
  match Endpoint.ofUri? uri with
  | none => .error ⟨.unsupportedUri uri, none⟩
  | some endpoint =>
    let path := host.socketPath endpoint
    match host.reach path with
    | .error obstacle => .error ⟨.noSocket path obstacle, none⟩
    | .ok socket =>
      match start uri { socket } with
      | .ok () c => .ok c
      | .error cause c => .error ⟨cause, some c⟩

end GuestInventory.Remote.Session
