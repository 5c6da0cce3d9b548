import GuestInventory.Remote.Socket
import GuestInventory.Log.Event

/-!
Calls over a socket, one at a time: a call packet goes out and packets are read until its reply
comes. Event packets in between are passed over; anything else that is not the reply fails the
call. A serial is used up by every call whose arguments could be written.
-/
namespace GuestInventory.Remote

structure Connection where
  socket : Socket
  /-- Serial of the next call. -/
  serial : UInt32 := 1
  journal : Log.Journal := #[]

abbrev Dialogue := EStateM Error Connection

namespace Connection

def note (e : Log.Event) (c : Connection) : Connection :=
  { c with journal := c.journal.push (.event e) }

def onSocket (action : EStateM Error Socket α) : Dialogue α := fun c =>
  match action c.socket with
  | .ok a socket => .ok a { c with socket }
  | .error e socket => .error e { c with socket }

def takeSerial : Dialogue UInt32 := fun c => .ok c.serial { c with serial := c.serial + 1 }

/-- The error that an error reply stands for. -/
def replyError (payload : Bytes) : Error :=
  match ErrorReply.read payload with
  | .ok e _ => .reply e.code e.domain (e.message.getD "unknown error")
  | .error cause _ => .undecodableReply cause

/-- What a packet other than an event means to the call that waits for its reply. -/
def outcome (procedure : Procedure) (serial : UInt32) (p : Packet) : Except Error Bytes :=
  match p.kind with
  | .reply =>
    if p.serial ≠ serial ∨ p.procedure ≠ procedure.number then
      .error (.foreignReply p.procedure p.serial procedure serial)
    else
      match p.status with
      | .ok => .ok p.payload
      | .error => .error (replyError p.payload)
      | .more => .error .unexpectedContinuation
  | kind => .error (.unexpectedPacket kind)

/-- Reads packets up to the reply. Every packet shortens the unread bytes. -/
def awaitReply (procedure : Procedure) (serial : UInt32) (c : Connection) :
    EStateM.Result Error Connection Bytes :=
  match _h : c.socket.receive with
  | .error e socket => .error e { c with socket }
  | .ok body socket =>
    match Packet.decode body with
    | .error e => .error (.packet e) { c with socket }
    | .ok p =>
      if p.kind = .message then
        awaitReply procedure serial (note (.skippedMessage p.procedure) { c with socket })
      else
        match outcome procedure serial p with
        | .ok payload => .ok payload { c with socket }
        | .error e => .error e { c with socket }
termination_by c.socket.unread.length
decreasing_by exact Socket.receive_shrinks (by assumption)

/-- Calls a procedure with a payload that is already written. -/
def call (procedure : Procedure) (payload : Bytes) : Dialogue Bytes := do
  let serial ← takeSerial
  modify (note (.call procedure serial))
  match (Packet.call procedure.number serial payload).encode with
  | .error e => throw (.packet e)
  | .ok frame =>
    onSocket (Socket.send frame)
    awaitReply procedure serial

/-- Calls a procedure with arguments to be written, and reads its reply. -/
def request (procedure : Procedure) (args : Xdr.Datum) (reply : Xdr.Reader α) : Dialogue α := do
  match args.encode with
  | .error e => throw (.xdr e)
  | .ok payload =>
    let answer ← call procedure payload
    match reply answer with
    | .ok a _ => return a
    | .error e _ => throw (.xdr e)

def shutdown : Dialogue Unit := onSocket Socket.shut

/-- Names the step that failed; what was done stays done. -/
def blaming (blame : Error → Error) (action : Dialogue α) : Dialogue α := fun c =>
  match action c with
  | .ok a c => .ok a c
  | .error e c => .error (blame e) c

end Connection

end GuestInventory.Remote
