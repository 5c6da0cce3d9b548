import GuestInventory.Log.Event

/-!
What a survey needs of a hypervisor: four calls that may each fail and may change the session's
state `σ`, and a place in that state for what is noted along the way.
-/
namespace GuestInventory.Survey

structure Hypervisor (σ : Type) where
  activeIds : EStateM Error σ (List Int32)
  lookup : Int32 → EStateM Error σ Remote.Domain
  leases : Remote.Domain → EStateM Error σ (List Remote.Interface)
  close : EStateM Error σ Unit
  note : Log.Entry → σ → σ

/-- Opens sessions. A failed attempt leaves a `φ`, a successful one an open session. -/
structure Connector (φ σ : Type) where
  uri : String
  connect : Except (Error × φ) σ
  session : Hypervisor σ
  noteFailure : Log.Entry → φ → φ

/-- The calls of a session. -/
inductive Call
  | activeIds
  | lookup (id : Int32)
  | leases (domain : Remote.Domain)
  | close
  deriving DecidableEq

namespace Hypervisor

/-- Lets an action work on the first part of a state after writing down a call in the second. -/
def recording (call : Call) (action : EStateM Error σ α) : EStateM Error (σ × Array Call) α :=
  fun (s, calls) =>
    match action s with
    | .ok a s => .ok a (s, calls.push call)
    | .error e s => .error e (s, calls.push call)

/-- The same hypervisor, with a record of the calls made. -/
def traced (hv : Hypervisor σ) : Hypervisor (σ × Array Call) where
  activeIds := recording .activeIds hv.activeIds
  lookup id := recording (.lookup id) (hv.lookup id)
  leases domain := recording (.leases domain) (hv.leases domain)
  close := recording .close hv.close
  note entry := fun (s, calls) => (hv.note entry s, calls)

end Hypervisor

end GuestInventory.Survey
