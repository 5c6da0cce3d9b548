import GuestInventory.Xdr.Writer
import GuestInventory.Xdr.Bounded

/-!
What the daemon tells about a guest: the domain itself, and its interfaces with their addresses.
Each has the datum that is written for it and the reader that takes it back.
-/
namespace GuestInventory.Remote

open Xdr (Datum Reader)

def interfaceMaximum : Nat := 2048

def addressMaximum : Nat := 2048

/-- A reference to a domain. -/
structure Domain where
  name : String
  uuid : Uuid
  /-- Number of the current run, and -1 for a domain that is not running. -/
  id : Int32
  deriving DecidableEq

namespace Domain

def datum (d : Domain) : Datum := .record [.string d.name, .uuid d.uuid, .int32 d.id]

def read : Reader Domain := do
  let name ← Reader.string
  let uuid ← Reader.uuid
  let id ← Reader.int32
  return { name, uuid, id }

end Domain

inductive AddressFamily
  | ipv4
  | ipv6
  | other (tag : Int32)
  deriving DecidableEq

namespace AddressFamily

def ofTag (tag : Int32) : AddressFamily :=
  if tag = 0 then ipv4 else if tag = 1 then ipv6 else other tag

def tag : AddressFamily → Int32
  | ipv4 => 0
  | ipv6 => 1
  | other tag => tag

def datum (f : AddressFamily) : Datum := .int32 f.tag

def read : Reader AddressFamily := return ofTag (← Reader.int32)

end AddressFamily

structure Address where
  family : AddressFamily
  text : String
  bits : UInt32
  deriving DecidableEq

namespace Address

def datum (a : Address) : Datum := .record [a.family.datum, .string a.text, .uint32 a.bits]

def read : Reader Address := do
  let family ← AddressFamily.read
  let text ← Reader.string
  let bits ← Reader.word
  return { family, text, bits }

end Address

structure Interface where
  name : String
  hardware : Option String
  addresses : List Address
  deriving DecidableEq

namespace Interface

def datum (i : Interface) : Datum :=
  .record [.string i.name, .option .string i.hardware, .list Address.datum i.addresses]

def read : Reader Interface := do
  let name ← Reader.string
  let hardware ← Reader.option Reader.string
  let addresses ← Reader.boundedArray addressMaximum Address.read
  return { name, hardware, addresses }

end Interface

end GuestInventory.Remote
