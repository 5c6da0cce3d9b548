import GuestInventory.Remote.Message
import GuestInventory.Remote.Packet

/-!
Why a session with the daemon failed. A cause that wraps another keeps it, and its text ends in the
text of the cause inside.
-/
namespace GuestInventory.Remote

/-- Faults of the byte stream beneath the frames. -/
inductive StreamFault
  | earlyEnd
  | brokenPipe
  | connectionReset
  | other (text : String)
  deriving DecidableEq

def StreamFault.message : StreamFault → String
  | earlyEnd => "early eof"
  | brokenPipe => "Broken pipe (os error 32)"
  | connectionReset => "Connection reset by peer (os error 104)"
  | other text => text

/-- Why a path or an abstract name does not lead to a socket. -/
inductive Obstacle
  | missing
  /-- More steps follow one that is no directory. -/
  | notDirectory
  /-- Nothing takes connections there. -/
  | notListening
  /-- The address of a socket has no room for so long a path. -/
  | pathTooLong
  | nameTooLong
  | emptyPath
  | nullByte
  deriving DecidableEq

def Obstacle.message : Obstacle → String
  | missing => "No such file or directory (os error 2)"
  | notDirectory => "Not a directory (os error 20)"
  | notListening => "Connection refused (os error 111)"
  | pathTooLong => "path must be shorter than SUN_LEN"
  | nameTooLong => "abstract socket name must be shorter than SUN_LEN"
  | emptyPath => "Invalid argument (os error 22)"
  | nullByte => "paths must not contain interior null bytes"

/-- Where in a session a failure belongs, for the causes that share a heading. -/
inductive Area
  | connection
  | authentication
  | protocol
  deriving DecidableEq

def Area.heading : Area → String
  | connection => "connection error"
  | authentication => "authentication failed"
  | protocol => "protocol error"

inductive Error
  | xdr (cause : Xdr.Error)
  | packet (cause : Packet.Error)
  | stream (fault : StreamFault)
  /-- The stream ended where a frame would begin. -/
  | closed
  | frameTooLarge (size : Nat)
  | unsupportedUri (uri : String)
  | noSocket (path : String) (obstacle : Obstacle)
  | openRefused (cause : Error)
  | closeRefused (cause : Error)
  | polkitIncomplete
  | noScheme (offered : List AuthScheme)
  | unexpectedPacket (kind : Packet.Kind)
  /-- A reply that answers another call than the one waiting. -/
  | foreignReply (procedure serial : UInt32) (expected : Procedure) (expectedSerial : UInt32)
  | unexpectedContinuation
  | undecodableReply (cause : Xdr.Error)
  /-- The daemon's own error reply. -/
  | reply (code domain : Int32) (message : String)
  | other (area : Area) (text : String)
  deriving DecidableEq

namespace Error

def area? : Error → Option Area
  | noSocket _ _ | openRefused _ => some .connection
  | polkitIncomplete | noScheme _ => some .authentication
  | closeRefused _ | unexpectedPacket _ | foreignReply _ _ _ _ | unexpectedContinuation
  | undecodableReply _ => some .protocol
  | other area _ => some area
  | _ => none

def message : Error → String
  | xdr cause => "XDR error: " ++ cause.message
  | packet cause => "packet error: " ++ cause.message
  | stream fault => "I/O error: " ++ fault.message
  | closed => "connection closed"
  | frameTooLarge size => s!"packet too large: {size} bytes"
  | unsupportedUri uri => "unsupported URI: " ++ uri
  | noSocket path obstacle => "connection error: " ++ path ++ ": " ++ obstacle.message
  | openRefused cause => "connection error: connect_open failed: " ++ cause.message
  | closeRefused cause => "protocol error: connect_close failed: " ++ cause.message
  | polkitIncomplete => "authentication failed: polkit authentication incomplete"
  | noScheme offered =>
    "authentication failed: no supported authentication scheme in [" ++
      ", ".intercalate (offered.map AuthScheme.name) ++ "]"
  | unexpectedPacket kind =>
    "protocol error: unexpected " ++ kind.name ++ " packet while waiting for reply"
  | foreignReply procedure serial expected expectedSerial =>
    let due := s!"procedure {expected.number} serial {expectedSerial}"
    s!"protocol error: reply for procedure {procedure} serial {serial}, expected {due}"
  | unexpectedContinuation => "protocol error: unexpected stream continuation"
  | undecodableReply cause => "protocol error: undecodable error reply: " ++ cause.message
  | reply code _ message => s!"RPC error {code}: {message}"
  | other area text => area.heading ++ ": " ++ text

/-- The text of the cause inside, for the causes that are another layer's failure. -/
def inner? : Error → Option String
  | xdr cause => some cause.message
  | packet cause => some cause.message
  | stream fault => some fault.message
  | _ => none

end Error

end GuestInventory.Remote
