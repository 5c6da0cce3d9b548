import GuestInventory.Remote.Guest

/-!
Arguments and replies of the procedures, in wire order. Writing enforces no maximum; reading a
list enforces the protocol's.
-/
namespace GuestInventory.Remote

open Xdr (Datum Reader)

def schemeMaximum : Nat := 20

def domainMaximum : Nat := 16384

/-- Ways to authenticate that a daemon may offer. -/
inductive AuthScheme
  | none
  | sasl
  | polkit
  | other (tag : Int32)
  deriving DecidableEq

namespace AuthScheme

def ofTag (tag : Int32) : AuthScheme :=
  if tag = 0 then none else if tag = 1 then sasl else if tag = 2 then polkit else other tag

def tag : AuthScheme → Int32
  | none => 0
  | sasl => 1
  | polkit => 2
  | other tag => tag

def name : AuthScheme → String
  | none => "None"
  | sasl => "Sasl"
  | polkit => "Polkit"
  | other tag => s!"Unknown({tag})"

def datum (s : AuthScheme) : Datum := .int32 s.tag

def read : Reader AuthScheme := return ofTag (← Reader.int32)

end AuthScheme

/-- Where the addresses of a domain are taken from. -/
inductive AddressSource
  | lease
  | agent
  | arp
  deriving DecidableEq

def AddressSource.number : AddressSource → UInt32
  | lease => 0
  | agent => 1
  | arp => 2

structure OpenArgs where
  name : Option String
  flags : UInt32

def OpenArgs.datum (a : OpenArgs) : Datum :=
  .record [.option .string a.name, .uint32 a.flags]

structure ListArgs where
  maximum : Int32

def ListArgs.datum (a : ListArgs) : Datum := .record [.int32 a.maximum]

structure LookupArgs where
  id : Int32

def LookupArgs.datum (a : LookupArgs) : Datum := .record [.int32 a.id]

structure AddressesArgs where
  domain : Domain
  source : AddressSource
  flags : UInt32

def AddressesArgs.datum (a : AddressesArgs) : Datum :=
  .record [a.domain.datum, .uint32 a.source.number, .uint32 a.flags]

/-- The schemes on offer, in the daemon's order. -/
structure SchemeList where
  schemes : List AuthScheme

def SchemeList.datum (l : SchemeList) : Datum := .record [.list AuthScheme.datum l.schemes]

def SchemeList.read : Reader SchemeList :=
  return ⟨← Reader.boundedArray schemeMaximum AuthScheme.read⟩

structure PolkitOutcome where
  complete : Int32

def PolkitOutcome.datum (o : PolkitOutcome) : Datum := .record [.int32 o.complete]

def PolkitOutcome.read : Reader PolkitOutcome := return ⟨← Reader.int32⟩

structure DomainCount where
  count : Int32

def DomainCount.datum (c : DomainCount) : Datum := .record [.int32 c.count]

def DomainCount.read : Reader DomainCount := return ⟨← Reader.int32⟩

structure DomainIds where
  ids : List Int32

def DomainIds.datum (l : DomainIds) : Datum := .record [.list .int32 l.ids]

def DomainIds.read : Reader DomainIds :=
  return ⟨← Reader.boundedArray domainMaximum Reader.int32⟩

structure FoundDomain where
  domain : Domain

def FoundDomain.datum (f : FoundDomain) : Datum := .record [f.domain.datum]

def FoundDomain.read : Reader FoundDomain := return ⟨← Domain.read⟩

structure InterfaceList where
  interfaces : List Interface

def InterfaceList.datum (l : InterfaceList) : Datum :=
  .record [.list Interface.datum l.interfaces]

def InterfaceList.read : Reader InterfaceList :=
  return ⟨← Reader.boundedArray interfaceMaximum Interface.read⟩

/-- The leading fields of an error reply; what follows them is left alone. -/
structure ErrorReply where
  code : Int32
  domain : Int32
  message : Option String
  level : Int32

namespace ErrorReply

def datum (e : ErrorReply) : Datum :=
  .record [.int32 e.code, .int32 e.domain, .option .string e.message, .int32 e.level]

def read : Reader ErrorReply := do
  let code ← Reader.int32
  let domain ← Reader.int32
  let message ← Reader.option Reader.string
  let level ← Reader.int32
  return { code, domain, message, level }

end ErrorReply

end GuestInventory.Remote
