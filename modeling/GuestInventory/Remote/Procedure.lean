/-!
The procedures of the remote program that a session calls, with their numbers and names.
-/
namespace GuestInventory.Remote

inductive Procedure
  | connectOpen
  | connectClose
  | domainLookupById
  | connectListDomains
  | connectNumOfDomains
  | authList
  | authPolkit
  | domainInterfaceAddresses
  deriving DecidableEq, Repr

namespace Procedure

def all : List Procedure :=
  [connectOpen, connectClose, domainLookupById, connectListDomains, connectNumOfDomains,
    authList, authPolkit, domainInterfaceAddresses]

def number : Procedure → UInt32
  | connectOpen => 1
  | connectClose => 2
  | domainLookupById => 22
  | connectListDomains => 37
  | connectNumOfDomains => 51
  | authList => 66
  | authPolkit => 70
  | domainInterfaceAddresses => 353

def ofNumber? (n : UInt32) : Option Procedure := all.find? fun p => p.number = n

def name : Procedure → String
  | connectOpen => "ConnectOpen"
  | connectClose => "ConnectClose"
  | domainLookupById => "DomainLookupById"
  | connectListDomains => "ConnectListDomains"
  | connectNumOfDomains => "ConnectNumOfDomains"
  | authList => "AuthList"
  | authPolkit => "AuthPolkit"
  | domainInterfaceAddresses => "DomainInterfaceAddresses"

theorem ofNumber?_number (p : Procedure) : ofNumber? p.number = some p := by
  cases p <;> rfl

theorem number_injective {p q : Procedure} (h : p.number = q.number) : p = q := by
  have hp := ofNumber?_number p
  rw [h, ofNumber?_number q] at hp
  exact (Option.some.inj hp).symm

end Procedure

end GuestInventory.Remote
