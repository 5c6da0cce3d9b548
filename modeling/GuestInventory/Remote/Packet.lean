import GuestInventory.Remote.Procedure
import GuestInventory.Xdr.Reader

/-!
Packets: a header of six words and a payload. On the wire a length word comes first, and it counts
itself.
-/
namespace GuestInventory.Remote

/-- Number of the remote program. -/
def program : UInt32 := 0x20008086

def protocolVersion : UInt32 := 1

/-- Most bytes that a packet may have, its length word included. -/
def packetMaximum : Nat := 4194304

namespace Packet

inductive Kind
  | call
  | reply
  | message
  | stream
  deriving DecidableEq

namespace Kind

def number : Kind → UInt32
  | call => 0
  | reply => 1
  | message => 2
  | stream => 3

def ofNumber? (n : UInt32) : Option Kind :=
  if n = 0 then some call
  else if n = 1 then some reply
  else if n = 2 then some message
  else if n = 3 then some stream
  else none

def name : Kind → String
  | call => "Call"
  | reply => "Reply"
  | message => "Message"
  | stream => "Stream"

end Kind

inductive Status
  | ok
  /-- The payload is an error reply. -/
  | error
  /-- More stream data follows. -/
  | more
  deriving DecidableEq

namespace Status

def number : Status → UInt32
  | ok => 0
  | error => 1
  | more => 2

def ofNumber? (n : UInt32) : Option Status :=
  if n = 0 then some ok else if n = 1 then some error else if n = 2 then some more else none

def name : Status → String
  | ok => "Ok"
  | error => "Error"
  | more => "Continue"

end Status

inductive Error
  | tooShort
  | unknownProgram (word : UInt32)
  | invalidKind (word : UInt32)
  | invalidStatus (word : UInt32)
  | tooLarge (size : Nat)
  deriving DecidableEq, Repr

def Error.message : Error → String
  | tooShort => "packet too short"
  | unknownProgram word => "unknown program: 0x" ++ Hex.ofNat word.toNat
  | invalidKind word => s!"invalid message type: {word}"
  | invalidStatus word => s!"invalid status: {word}"
  | tooLarge size => s!"packet too large: {size} bytes"

end Packet

structure Packet where
  program : UInt32
  version : UInt32
  procedure : UInt32
  kind : Packet.Kind
  /-- Pairs a reply with its call. -/
  serial : UInt32
  status : Packet.Status
  payload : Bytes
  deriving DecidableEq

namespace Packet

def call (procedure serial : UInt32) (payload : Bytes) : Packet where
  program := Remote.program
  version := protocolVersion
  procedure := procedure
  kind := .call
  serial := serial
  status := .ok
  payload := payload

def reply (procedure serial : UInt32) (status : Status) (payload : Bytes) : Packet :=
  { call procedure serial payload with kind := .reply, status := status }

/-- Bytes on the wire, the length word included. -/
def size (p : Packet) : Nat := 28 + p.payload.length

/-- What follows the length word. -/
def body (p : Packet) : Bytes :=
  Bytes.ofWord p.program ++ (Bytes.ofWord p.version ++ (Bytes.ofWord p.procedure ++
    (Bytes.ofWord p.kind.number ++ (Bytes.ofWord p.serial ++
      (Bytes.ofWord p.status.number ++ p.payload)))))

def encode (p : Packet) : Except Error Bytes :=
  if packetMaximum < p.size then .error (.tooLarge p.size)
  else .ok (Bytes.ofWord (UInt32.ofNat p.size) ++ p.body)

/-- The words of the header as they stand; there are too few of them only at the end of input. -/
structure Header where
  program : UInt32
  version : UInt32
  procedure : UInt32
  kind : UInt32
  serial : UInt32
  status : UInt32

def Header.read : Xdr.Reader Header := do
  let program ← Xdr.Reader.word
  let version ← Xdr.Reader.word
  let procedure ← Xdr.Reader.word
  let kind ← Xdr.Reader.word
  let serial ← Xdr.Reader.word
  let status ← Xdr.Reader.word
  return { program, version, procedure, kind, serial, status }

/-- Decodes what follows a length word. The version is taken as it comes. -/
def decode (data : Bytes) : Except Error Packet :=
  match Header.read data with
  | .error _ _ => .error .tooShort
  | .ok h payload =>
    if h.program ≠ Remote.program then .error (.unknownProgram h.program)
    else
      match Kind.ofNumber? h.kind, Status.ofNumber? h.status with
      | some kind, some status =>
        .ok { program := h.program, version := h.version, procedure := h.procedure, kind,
              serial := h.serial, status, payload }
      | none, _ => .error (.invalidKind h.kind)
      | some _, none => .error (.invalidStatus h.status)

end Packet

end GuestInventory.Remote
