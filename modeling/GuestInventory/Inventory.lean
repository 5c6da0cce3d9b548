import GuestInventory.Json.Text

/-!
The inventory document: one group of hosts for each domain, in the order in which the names were
first put in. Putting a name in again replaces its group where it stands.
-/
namespace GuestInventory

def defaultUser : String := "evgnomon"

/-- The addresses of one domain, and how to log in there. -/
structure Group where
  hosts : List String
  address : String
  user : String
  deriving DecidableEq

namespace Group

/-- A group is reached at its first host, so without hosts there is none. -/
def ofHosts? (hosts : List String) (user : String) : Option Group :=
  hosts.head?.map fun address => { hosts, address, user }

def json (g : Group) : Json.Value :=
  .object [("hosts", .array (g.hosts.map .string)),
    ("vars", .object [("ansible_host", .string g.address), ("ansible_user", .string g.user)])]

end Group

structure Inventory where
  entries : List (String × Group)
  deriving DecidableEq

namespace Inventory

def empty : Inventory := ⟨[]⟩

def putEntry (name : String) (group : Group) : List (String × Group) → List (String × Group)
  | [] => [(name, group)]
  | (other, old) :: rest =>
    if other = name then (name, group) :: rest else (other, old) :: putEntry name group rest

def put (inventory : Inventory) (name : String) (group : Group) : Inventory :=
  ⟨putEntry name group inventory.entries⟩

def get? (inventory : Inventory) (name : String) : Option Group :=
  inventory.entries.lookup name

def size (inventory : Inventory) : Nat := inventory.entries.length

def isEmpty (inventory : Inventory) : Bool := inventory.entries.isEmpty

def json (inventory : Inventory) : Json.Value :=
  .object (inventory.entries.map fun (name, group) => (name, group.json))

/-- The document as printable ASCII. -/
def text (inventory : Inventory) : String := Json.ascii inventory.json

end Inventory

end GuestInventory
