import GuestInventory.Proofs.Limits
import GuestInventory.Remote.Endpoint

/-!
The messages of the procedures, on their way out and back. Every argument is written without a
fault. A reply is read back as what it tells, as far as its strings and its lists keep within their
limits: a tag that has a name is read by its name. The strings in a reply need no bound of their
own as long as the whole reply keeps within the limit on them.
-/
namespace GuestInventory.Remote

open Xdr (Conveys ConveysWithin Datum Part Reader stringMaximum)

def Session.opening (uri : String) : OpenArgs := { name := openedName uri, flags := 0 }

def Session.listing (count : Int32) : ListArgs :=
  { maximum := min count 16384 }

theorem OpenArgs.plain (a : OpenArgs) : a.datum.Plain := by
  obtain ⟨name, flags⟩ := a
  cases name <;> rfl

theorem ListArgs.plain (a : ListArgs) : a.datum.Plain := rfl

theorem LookupArgs.plain (a : LookupArgs) : a.datum.Plain := rfl

theorem AddressesArgs.plain (a : AddressesArgs) : a.datum.Plain := rfl

/-- A tag that has a name is read by it, and any other stands as it is. -/
def AuthScheme.settled : AuthScheme → AuthScheme
  | other tag =>
    if tag = 0 then none else if tag = 1 then sasl else if tag = 2 then polkit else other tag
  | scheme => scheme

def AddressFamily.settled : AddressFamily → AddressFamily
  | other tag => if tag = 0 then ipv4 else if tag = 1 then ipv6 else other tag
  | family => family

/-- What is read of a scheme's tag is the scheme, by its name if the tag has one. -/
theorem AuthScheme.ofTag_tag (s : AuthScheme) : ofTag s.tag = s.settled := by
  cases s with
  | none => rfl
  | sasl => rfl
  | polkit => rfl
  | other tag => rfl

theorem AddressFamily.ofTag_tag (f : AddressFamily) : ofTag f.tag = f.settled := by
  cases f with
  | ipv4 => rfl
  | ipv6 => rfl
  | other tag => rfl

def Address.settled (a : Address) : Address := { a with family := a.family.settled }

def Interface.settled (i : Interface) : Interface :=
  { i with addresses := i.addresses.map Address.settled }

theorem AuthScheme.conveys (s : AuthScheme) : Conveys s.datum read s.settled := by
  rw [← ofTag_tag]
  exact (Conveys.int32 s.tag).bind_pure rfl

theorem AddressFamily.conveys (f : AddressFamily) : Conveys f.datum read f.settled := by
  rw [← ofTag_tag]
  exact (Conveys.int32 f.tag).bind_pure rfl

def Domain.parts (d : Domain) : List Part := [.text d.name]

theorem Domain.conveysWithin (d : Domain) : ConveysWithin d.datum read d.parts d := by
  refine .record ?_
  exact (ConveysWithin.string d.name).followed <|
    (ConveysWithin.of_conveys (.uuid d.uuid)).followed <|
      (ConveysWithin.of_conveys (.int32 d.id)).last rfl

def Address.parts (a : Address) : List Part := [.text a.text]

theorem Address.conveysWithin (a : Address) : ConveysWithin a.datum read a.parts a.settled := by
  refine .record ?_
  exact (ConveysWithin.of_conveys a.family.conveys).followed <|
    (ConveysWithin.string a.text).followed <|
      (ConveysWithin.of_conveys (.uint32 a.bits)).last rfl

/-- The addresses of an interface come behind their count, which may be 2048 at most. -/
def Interface.parts (i : Interface) : List Part :=
  .text i.name :: (i.hardware.toList.map .text ++
    .count i.addresses.length 2048 :: i.addresses.flatMap Address.parts)

/-- The parts of an interface come in wire order: its name, its hardware address, and then how many
addresses it has and what they say. -/
theorem Interface.conveysWithin (i : Interface) :
    ConveysWithin i.datum read i.parts i.settled := by
  obtain ⟨name, hardware, addresses⟩ := i
  have hlist := ConveysWithin.boundedArray Address.read Address.datum Address.parts
    Address.settled addresses addressMaximum (by decide) fun a _ => a.conveysWithin
  refine .record ?_
  exact (ConveysWithin.string name).followed <| (ConveysWithin.optional hardware).followed <|
    hlist.last rfl

def SchemeList.parts (l : SchemeList) : List Part := [.count l.schemes.length 20]

theorem SchemeList.conveysWithin (l : SchemeList) :
    ConveysWithin l.datum read l.parts ⟨l.schemes.map AuthScheme.settled⟩ := by
  have hlist := ConveysWithin.boundedArray_of_conveys AuthScheme.read AuthScheme.datum
    AuthScheme.settled l.schemes schemeMaximum (by decide) fun s _ => s.conveys
  exact .record (hlist.last rfl)

/-- Schemes have no texts, so that only their number is limited. -/
theorem SchemeList.conveys (l : SchemeList) (h : l.schemes.length ≤ schemeMaximum) :
    Conveys l.datum read ⟨l.schemes.map AuthScheme.settled⟩ :=
  l.conveysWithin.conveys (List.forall_mem_singleton.mpr h)

theorem DomainCount.conveys (c : DomainCount) : Conveys c.datum read c :=
  .record ((Conveys.int32 c.count).followed (.done c))

def DomainIds.parts (l : DomainIds) : List Part := [.count l.ids.length 16384]

theorem DomainIds.conveysWithin (l : DomainIds) : ConveysWithin l.datum read l.parts l := by
  have hlist := ConveysWithin.boundedArray_of_conveys Reader.int32 Datum.int32 id l.ids
    domainMaximum (by decide) fun n _ => Conveys.int32 n
  rw [List.map_id] at hlist
  exact .record (hlist.last rfl)

theorem DomainIds.conveys (l : DomainIds) (h : l.ids.length ≤ domainMaximum) :
    Conveys l.datum read l :=
  l.conveysWithin.conveys (List.forall_mem_singleton.mpr h)

theorem FoundDomain.conveysWithin (f : FoundDomain) :
    ConveysWithin f.datum read f.domain.parts f :=
  .record (f.domain.conveysWithin.last rfl)

/-- No name is too long in a reply that is not. -/
theorem FoundDomain.conveys (f : FoundDomain) (hsize : f.datum.wire.length ≤ stringMaximum) :
    Conveys f.datum read f :=
  f.conveysWithin.conveys_of_length hsize (by simp [Domain.parts])

def InterfaceList.parts (l : InterfaceList) : List Part :=
  .count l.interfaces.length 2048 :: l.interfaces.flatMap Interface.parts

theorem InterfaceList.conveysWithin (l : InterfaceList) :
    ConveysWithin l.datum read l.parts ⟨l.interfaces.map Interface.settled⟩ := by
  have hlist := ConveysWithin.boundedArray Interface.read Interface.datum Interface.parts
    Interface.settled l.interfaces interfaceMaximum (by decide) fun i _ => i.conveysWithin
  exact .record (hlist.last rfl)

theorem InterfaceList.conveys (l : InterfaceList)
    (hinterfaces : l.interfaces.length ≤ interfaceMaximum)
    (haddresses : ∀ i ∈ l.interfaces, i.addresses.length ≤ addressMaximum)
    (hsize : l.datum.wire.length ≤ stringMaximum) :
    Conveys l.datum read ⟨l.interfaces.map Interface.settled⟩ := by
  refine l.conveysWithin.conveys_of_length hsize ?_
  intro length maximum hcount
  rcases List.mem_cons.mp hcount with hcount | hcount
  · cases hcount
    exact hinterfaces
  · obtain ⟨i, hi, hcount⟩ := List.mem_flatMap.mp hcount
    have hparts : length = i.addresses.length ∧ maximum = 2048 := by
      simpa [Interface.parts, Address.parts] using hcount
    rw [hparts.1, hparts.2]
    exact haddresses i hi

end GuestInventory.Remote
