import GuestInventory.Proofs.Entries
import GuestInventory.Survey.Generate

/-!
The inventory that surveyed guests come to. Only a guest with an IPv4 address has a group. The
names stand in the order in which the first such guest of each was visited, and the group under a
name is that of the last such guest, whatever guests of that name come after it without one.
-/
namespace GuestInventory

namespace Group

variable {hosts : List String} {user : String}

theorem ofHosts?_eq_none_iff : ofHosts? hosts user = none ↔ hosts = [] := by
  rw [ofHosts?, Option.map_eq_none_iff, List.head?_eq_none_iff]

/-- A group has all the hosts, is reached at the first of them, and is logged in to as `user`. -/
theorem eq_of_ofHosts? {group : Group} (h : ofHosts? hosts user = some group) :
    group.hosts = hosts ∧ hosts.head? = some group.address ∧ group.user = user := by
  obtain ⟨address, haddress, rfl⟩ := Option.map_eq_some_iff.mp h
  exact ⟨rfl, haddress, rfl⟩

end Group

namespace Survey

open Remote (Domain Interface Address)

/-- A running domain: the id that it is listed with, what looking that id up gives, and what
asking for the leases of that gives. -/
structure Guest where
  id : Int32
  domain : Domain
  interfaces : List Interface

def Guest.hosts (g : Guest) : List String :=
  ((g.interfaces.flatMap Interface.addresses).filter fun a => a.family = .ipv4).map Address.text

/-- The hosts are the IPv4 addresses in the order of the interfaces. -/
theorem ipv4Hosts_eq (interfaces : List Interface) :
    ipv4Hosts interfaces =
      ((interfaces.flatMap Interface.addresses).filter fun a => a.family = .ipv4).map
        Address.text := by
  rw [ipv4Hosts, List.filter_flatMap, List.map_flatMap]

def enter (user : String) (inventory : Inventory) (g : Guest) : Inventory :=
  match Group.ofHosts? (ipv4Hosts g.interfaces) user with
  | some group => inventory.put g.domain.name group
  | none => inventory

def tally (user : String) (guests : List Guest) : Inventory :=
  guests.foldl (enter user) .empty

namespace Guest

def put? (user : String) (g : Guest) : Option (String × Group) :=
  (Group.ofHosts? g.hosts user).map fun group => (g.domain.name, group)

theorem put?_eq_none_iff {user : String} {g : Guest} : g.put? user = none ↔ g.hosts = [] := by
  rw [put?, Option.map_eq_none_iff, Group.ofHosts?_eq_none_iff]

theorem eq_of_put? {user : String} {g : Guest} {entry : String × Group}
    (h : g.put? user = some entry) :
    g.domain.name = entry.1 ∧ entry.2.hosts = g.hosts ∧
      g.hosts.head? = some entry.2.address ∧ entry.2.user = user := by
  obtain ⟨group, hgroup, rfl⟩ := Option.map_eq_some_iff.mp h
  exact ⟨rfl, Group.eq_of_ofHosts? hgroup⟩

end Guest

theorem enter_eq (user : String) (inventory : Inventory) (g : Guest) :
    enter user inventory g = inventory.putAll (g.put? user).toList := by
  rw [enter, ipv4Hosts_eq, Guest.put?, Guest.hosts]
  split
  · rename_i group hgroup
    rw [hgroup]
    rfl
  · rename_i hgroup
    rw [hgroup]
    rfl

/-- By induction on the guests: each has put in at most one group. -/
theorem foldl_enter (user : String) (inventory : Inventory) (guests : List Guest) :
    guests.foldl (enter user) inventory =
      inventory.putAll (guests.filterMap (Guest.put? user)) := by
  induction guests generalizing inventory with
  | nil => rfl
  | cons g rest ih =>
    rw [List.foldl_cons, ih, enter_eq, List.filterMap_cons]
    cases g.put? user <;> rfl

/-- The names put in are those of the guests that have hosts. -/
theorem map_fst_puts (user : String) (guests : List Guest) :
    (guests.filterMap (Guest.put? user)).map Prod.fst =
      (guests.filter fun g => g.hosts ≠ []).map fun g => g.domain.name := by
  induction guests with
  | nil => rfl
  | cons g rest ih =>
    rw [List.filterMap_cons, List.filter_cons]
    cases hentry : g.put? user with
    | none =>
      have hhosts := Guest.put?_eq_none_iff.mp hentry
      simpa [hhosts] using ih
    | some entry =>
      have hhosts : g.hosts ≠ [] := by
        intro hnone
        rw [Guest.put?_eq_none_iff.mpr hnone] at hentry
        cases hentry
      simpa [hhosts, (Guest.eq_of_put? hentry).1] using ih

/-- What an inventory says of guests that were visited in this order. -/
structure Lists (user : String) (guests : List Guest) (inventory : Inventory) : Prop where
  nodup : inventory.names.Nodup
  /-- The distinct names of the guests with hosts, each where the first guest of it stands. -/
  names_eq : inventory.names =
    ((guests.filter fun g => g.hosts ≠ []).map fun g => g.domain.name).eraseDups
  /-- A group is that of a guest after which none of its name has hosts. -/
  group_of_mem : ∀ name group, (name, group) ∈ inventory.entries → ∃ before g after,
    guests = before ++ g :: after ∧ g.domain.name = name ∧
      (∀ later ∈ after, later.domain.name = name → later.hosts = []) ∧
      group.hosts = g.hosts ∧ g.hosts.head? = some group.address ∧ group.user = user

theorem lists_tally (user : String) (guests : List Guest) :
    Lists user guests (tally user guests) := by
  rw [tally, foldl_enter]
  have hempty : Inventory.empty.names.Nodup := List.nodup_nil
  refine ⟨Inventory.nodup_putAll _ hempty, ?_, ?_⟩
  · rw [Inventory.names_putAll, map_fst_puts]
  · intro name group hmem
    have hlast := Inventory.mem_putAll _ hempty hmem
    obtain ⟨front, back, hputs, hback⟩ := hlast.resolve_left fun h => List.not_mem_nil h.1
    -- The puts are split at the last of the name, and the guests are split where it comes from.
    obtain ⟨_, tail, rfl, -, htail⟩ := List.filterMap_eq_append_iff.mp hputs
    obtain ⟨skipped, g, after, rfl, -, hentry, rfl⟩ := List.filterMap_eq_cons_iff.mp htail
    obtain ⟨hname, hhosts, haddress, huser⟩ := Guest.eq_of_put? hentry
    refine ⟨_, g, after, (List.append_assoc _ _ _).symm, hname, ?_, hhosts, haddress, huser⟩
    intro later hlater hsame
    cases hlast : later.put? user with
    | none => exact Guest.put?_eq_none_iff.mp hlast
    | some entry =>
      have hentry := hback entry (List.mem_filterMap.mpr ⟨later, hlater, hlast⟩)
      exact absurd ((Guest.eq_of_put? hlast).1.symm.trans hsame) hentry

/-- The second `web` replaces the group of the first, and the third has nothing to replace it
with. -/
example :
    let guest (id : Int32) (name : String) (addresses : List Address) : Guest :=
      ⟨id, ⟨name, Uuid.zero, id⟩, [⟨"vnet0", none, addresses⟩]⟩
    let guests := [guest 1 "web" [⟨.ipv4, "10.0.0.1", 24⟩],
      guest 2 "db" [⟨.ipv4, "10.0.0.2", 24⟩],
      guest 3 "web" [⟨.ipv6, "fe80::3", 64⟩, ⟨.ipv4, "10.0.0.3", 24⟩],
      guest 4 "web" [⟨.other 2, "10.0.0.4", 24⟩]]
    tally "root" guests = ⟨[("web", ⟨["10.0.0.3"], "10.0.0.3", "root"⟩),
      ("db", ⟨["10.0.0.2"], "10.0.0.2", "root"⟩)]⟩ := by
  decide

end Survey

end GuestInventory
