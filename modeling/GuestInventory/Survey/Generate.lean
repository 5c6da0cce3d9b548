import GuestInventory.Inventory
import GuestInventory.Survey.Hypervisor

/-!
One pass over the running domains. A session that cannot be opened gives an empty inventory; once
it is open, the first call that fails ends the pass with its error, and either way the session is
closed exactly once, at the end.
-/
namespace GuestInventory.Survey

open Remote (Domain Interface)

/-- Addresses of the IPv4 family, interface by interface. -/
def ipv4Hosts (interfaces : List Interface) : List String :=
  interfaces.flatMap fun i =>
    (i.addresses.filter fun a => a.family = .ipv4).map fun a => a.text

def noteInto (hv : Hypervisor σ) (e : Log.Event) : EStateM Error σ Unit :=
  modify (hv.note (.event e))

/-- Surveys one running domain: a group for it if it has an IPv4 lease. -/
def visit (hv : Hypervisor σ) (user : String) (inventory : Inventory) (id : Int32) :
    EStateM Error σ Inventory := do
  let domain ← hv.lookup id
  let hosts := ipv4Hosts (← hv.leases domain)
  match Group.ofHosts? hosts user with
  | some group =>
    noteInto hv (.addingGroup domain.name domain.uuid id group.hosts)
    return inventory.put domain.name group
  | none =>
    noteInto hv (.noLease domain.name id)
    return inventory

def visitAll (hv : Hypervisor σ) (user : String) (inventory : Inventory) :
    List Int32 → EStateM Error σ Inventory
  | [] => return inventory
  | id :: rest => do
    let inventory ← visit hv user inventory id
    visitAll hv user inventory rest

/-- Walks the running domains of an open session. -/
def collect (hv : Hypervisor σ) (user : String) : EStateM Error σ Inventory := do
  visitAll hv user .empty (← hv.activeIds)

/-- How an action ended, as a value. -/
def ending (action : EStateM Error σ α) : σ → Except Error α × σ := fun s =>
  match action s with
  | .ok a s => (.ok a, s)
  | .error e s => (.error e, s)

/-- Closes the session; a refusal is only noted. -/
def closeQuietly (hv : Hypervisor σ) (s : σ) : σ :=
  match hv.close s with
  | .ok () s => s
  | .error e s => hv.note (.event (.closeFailed e)) s

/-- A finished run: its result, and what it leaves behind, an attempt to connect or a session that
was open. -/
structure Run (φ σ : Type) where
  result : Except Error Inventory
  left : φ ⊕ σ

/-- Builds the inventory of whatever `connector` reaches. -/
def generate (connector : Connector φ σ) (user : String) : Run φ σ :=
  match connector.connect with
  | .error (cause, attempt) =>
    let attempt := connector.noteFailure (.unopened connector.uri) attempt
    ⟨.ok .empty, .inl (connector.noteFailure (.event (.unavailable cause)) attempt)⟩
  | .ok session =>
    let (result, session) := ending (collect connector.session user) session
    ⟨result, .inr (closeQuietly connector.session session)⟩

end GuestInventory.Survey
