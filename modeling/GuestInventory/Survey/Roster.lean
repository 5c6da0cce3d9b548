import GuestInventory.Survey.Generate

/-!
A hypervisor in memory: its domains are fixed up front, and each of its answers may be told to
fail. The only state is the journal.
-/
namespace GuestInventory.Survey

/-- A domain, what asking for its leases gives, and the failure of its lookup if it is to fail. -/
structure Enrolled where
  domain : Remote.Domain
  lookupFault : Option Error := none
  leases : Except Error (List Remote.Interface)

structure Roster where
  enrolled : List Enrolled
  ids : Except Error (List Int32)
  openFault : Option Error := none
  closeFault : Option Error := none

namespace Roster

def find? (r : Roster) (id : Int32) : Option Enrolled :=
  r.enrolled.find? fun e => e.domain.id = id

/-- The daemon's reply for an id that no running domain has. -/
def notFound (id : Int32) : Error :=
  .remote (.reply 42 10 s!"Domain not found: no domain with matching id {id}")

def lookup (r : Roster) (id : Int32) : Except Error Remote.Domain :=
  match r.find? id with
  | none => .error (notFound id)
  | some e =>
    match e.lookupFault with
    | some fault => .error fault
    | none => .ok e.domain

def leases (r : Roster) (domain : Remote.Domain) : Except Error (List Remote.Interface) :=
  match r.find? domain.id with
  | none => .ok []
  | some e => e.leases

def closing (r : Roster) : Except Error Unit :=
  match r.closeFault with
  | some fault => .error fault
  | none => .ok ()

/-- An answer that leaves the state alone. -/
def answer (result : Except Error α) : EStateM Error Log.Journal α := fun journal =>
  match result with
  | .ok a => .ok a journal
  | .error e => .error e journal

def hypervisor (r : Roster) : Hypervisor Log.Journal where
  activeIds := answer r.ids
  lookup id := answer (r.lookup id)
  leases domain := answer (r.leases domain)
  close := answer r.closing
  note entry journal := journal.push entry

/-- Opens sessions whose calls are recorded. -/
def connector (r : Roster) (uri : String) : Connector Log.Journal (Log.Journal × Array Call) where
  uri := uri
  connect :=
    match r.openFault with
    | some fault => .error (fault, #[])
    | none => .ok (#[], #[])
  session := r.hypervisor.traced
  noteFailure entry journal := journal.push entry

end Roster

end GuestInventory.Survey
