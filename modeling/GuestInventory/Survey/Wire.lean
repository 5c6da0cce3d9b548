import GuestInventory.Survey.Generate
import GuestInventory.Remote.Session

/-!
Surveys over the daemon's socket.
-/
namespace GuestInventory.Survey

open Remote (Connection Dialogue Host)

def defaultUri : String := "qemu:///system"

/-- A failure of the session is a failure of the survey. -/
def overWire (action : Dialogue α) : EStateM Error Connection α := fun c =>
  match action c with
  | .ok a c => .ok a c
  | .error e c => .error (.remote e) c

def addEntry (entry : Log.Entry) (c : Connection) : Connection :=
  { c with journal := c.journal.push entry }

def wire : Hypervisor Connection where
  activeIds := overWire Remote.Session.domainIds
  lookup id := overWire (Remote.Session.lookup id)
  leases domain := overWire (Remote.Session.interfaces domain .lease)
  close := overWire Remote.Session.finish
  note := addEntry

/-- What a failed attempt to connect leaves: the frames sent, if a socket was reached, and the
journal. -/
structure Attempt where
  sent : Option (Array Bytes)
  journal : Log.Journal

def Attempt.ofRefusal (r : Remote.Session.Refusal) : Attempt :=
  match r.connection with
  | some c => ⟨some c.socket.sent, c.journal⟩
  | none => ⟨none, #[]⟩

def wireConnector (host : Host) (uri : String) : Connector Attempt Connection where
  uri := uri
  connect :=
    match Remote.Session.connect host uri with
    | .ok c => .ok c
    | .error refusal => .error (.remote refusal.cause, .ofRefusal refusal)
  session := wire
  noteFailure entry attempt := { attempt with journal := attempt.journal.push entry }

namespace Run

def sent (run : Run Attempt Connection) : Option (Array Bytes) :=
  match run.left with
  | .inl attempt => attempt.sent
  | .inr c => some c.socket.sent

def journal (run : Run Attempt Connection) : Log.Journal :=
  match run.left with
  | .inl attempt => attempt.journal
  | .inr c => c.journal

end Run

end GuestInventory.Survey
