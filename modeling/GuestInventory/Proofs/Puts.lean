import GuestInventory.Proofs.Entries

/-!
What puts come to, one after another. An inventory without a name twice is told by the order of its
names and by the group that each name has. A put moves no name that is there and changes the group
of no other name; so the order is settled by the first put of each name, and the groups by the last.
-/
namespace GuestInventory.Inventory

/-- The last of the puts under `name` put in `group`. -/
def LastUnder (puts : List (String × Group)) (name : String) (group : Group) : Prop :=
  ∃ before after, puts = before ++ (name, group) :: after ∧ ∀ put ∈ after, put.1 ≠ name

theorem lookup_cons_of_ne {entry : String × Group} {name : String} (h : name ≠ entry.1)
    (rest : List (String × Group)) : (entry :: rest).lookup name = rest.lookup name := by
  rw [List.lookup_cons, beq_eq_false_iff_ne.mpr h]

section Put

variable (inventory : Inventory) (name : String) (group : Group)

/-- A put gives its name the new group, and every other name the group it had. -/
theorem get?_put (other : String) :
    (inventory.put name group).get? other =
      if other = name then some group else inventory.get? other := by
  obtain ⟨entries⟩ := inventory
  simp only [get?, put]
  induction entries with
  | nil =>
    rw [putEntry]
    by_cases h : other = name
    · rw [if_pos h, h, List.lookup_cons_self]
    · rw [if_neg h, lookup_cons_of_ne h]
  | cons entry rest ih =>
    obtain ⟨first, old⟩ := entry
    rw [putEntry]
    by_cases hfirst : first = name
    · rw [if_pos hfirst]
      by_cases h : other = name
      · rw [if_pos h, h, List.lookup_cons_self]
      · rw [if_neg h, lookup_cons_of_ne h, lookup_cons_of_ne (hfirst ▸ h)]
    · rw [if_neg hfirst]
      by_cases h : other = first
      · rw [h, List.lookup_cons_self, List.lookup_cons_self, if_neg hfirst]
      · rw [lookup_cons_of_ne h, lookup_cons_of_ne h, ih]

theorem get?_eq_none_iff : inventory.get? name = none ↔ name ∉ inventory.names := by
  rw [get?, List.lookup_eq_none_iff, names, List.mem_map]
  constructor
  · rintro h ⟨entry, hentry, rfl⟩
    exact absurd (h entry hentry) (by simp)
  · intro h entry hentry
    exact bne_iff_ne.mpr fun hname => h ⟨entry, hentry, hname.symm⟩

end Put

/-- Two inventories are equal if their names stand in the same order, none of them twice, and have
the same groups. By induction on the entries: the first names are equal and have equal groups, and
neither name comes again. -/
theorem eq_of_get?_eq {inventory other : Inventory} (hnodup : inventory.names.Nodup)
    (hnames : inventory.names = other.names)
    (hget : ∀ name, inventory.get? name = other.get? name) : inventory = other := by
  obtain ⟨entries⟩ := inventory
  obtain ⟨entries'⟩ := other
  simp only [names, get?] at hnodup hnames hget
  rw [mk.injEq]
  induction entries generalizing entries' with
  | nil => exact (List.map_eq_nil_iff.mp hnames.symm).symm
  | cons entry rest ih =>
    cases entries' with
    | nil => cases hnames
    | cons entry' rest' =>
      obtain ⟨name, group⟩ := entry
      obtain ⟨name', group'⟩ := entry'
      simp only [List.map_cons, List.cons.injEq] at hnames
      obtain ⟨rfl, hrest⟩ := hnames
      rw [List.map_cons, List.nodup_cons] at hnodup
      have hgroup := hget name
      simp only [List.lookup_cons_self, Option.some.injEq] at hgroup
      have hagree : ∀ other, rest.lookup other = rest'.lookup other := by
        intro other
        by_cases hother : other = name
        · have hnew : other ∉ rest.map Prod.fst := hother ▸ hnodup.1
          have hnone := (get?_eq_none_iff ⟨rest⟩ other).mpr hnew
          rw [hrest] at hnew
          have hnone' := (get?_eq_none_iff ⟨rest'⟩ other).mpr hnew
          exact Eq.trans hnone hnone'.symm
        · have h := hget other
          rwa [lookup_cons_of_ne hother, lookup_cons_of_ne hother] at h
      rw [hgroup, ih hnodup.2 rest' hrest hagree]

section Put

variable {inventory : Inventory} {name : String} {group : Group}

theorem mem_names_of_get? (h : inventory.get? name = some group) : name ∈ inventory.names := by
  refine Decidable.not_not.mp fun hname => ?_
  rw [(get?_eq_none_iff inventory name).mpr hname] at h
  cases h

/-- Putting in again what a name has changes nothing. -/
theorem put_of_get? (hnodup : inventory.names.Nodup) (h : inventory.get? name = some group) :
    inventory.put name group = inventory := by
  have hname := mem_names_of_get? h
  refine eq_of_get?_eq (inventory.nodup_put name group hnodup)
    (inventory.names_put_of_mem name group hname) ?_
  intro other
  rw [get?_put]
  split
  · rename_i hother
    rw [hother, h]
  · rfl

/-- Names that are there may be put in again in either order. -/
theorem put_comm {other : String} {second : Group} (hnodup : inventory.names.Nodup)
    (hname : name ∈ inventory.names) (hother : other ∈ inventory.names) (hne : name ≠ other) :
    (inventory.put name group).put other second =
      (inventory.put other second).put name group := by
  have hnames : ((inventory.put name group).put other second).names = inventory.names := by
    have hkept := inventory.names_put_of_mem name group hname
    rw [names_put_of_mem _ other second (hkept ▸ hother), hkept]
  have hnames' : ((inventory.put other second).put name group).names = inventory.names := by
    have hkept := inventory.names_put_of_mem other second hother
    rw [names_put_of_mem _ name group (hkept ▸ hname), hkept]
  refine eq_of_get?_eq (hnames ▸ hnodup) (hnames.trans hnames'.symm) ?_
  intro asked
  simp only [get?_put]
  by_cases h : asked = name
  · have hasked : asked ≠ other := fun hasked => hne (h.symm.trans hasked)
    rw [if_neg hasked, if_pos h, if_pos h]
  · rw [if_neg h, if_neg h]

end Put

/-- Seen from the last put back, the first put of a name gives its group; a name that is not put in
keeps what it had. -/
theorem get?_putAll (inventory : Inventory) (puts : List (String × Group)) (name : String) :
    (inventory.putAll puts).get? name = (puts.reverse.lookup name).or (inventory.get? name) := by
  induction puts generalizing inventory with
  | nil => rfl
  | cons entry rest ih =>
    have hstep : inventory.putAll (entry :: rest) =
        (inventory.put entry.1 entry.2).putAll rest := rfl
    rw [hstep, ih, get?_put, List.reverse_cons, List.lookup_append, Option.or_assoc]
    by_cases h : name = entry.1
    · rw [if_pos h, h, List.lookup_cons_self, Option.some_or]
    · rw [if_neg h, lookup_cons_of_ne h, List.lookup_nil, Option.none_or]

theorem lastUnder_iff_lookup {puts : List (String × Group)} {name : String} {group : Group} :
    LastUnder puts name group ↔ puts.reverse.lookup name = some group := by
  rw [List.lookup_eq_some_iff, LastUnder]
  constructor
  · rintro ⟨before, after, rfl, hafter⟩
    refine ⟨after.reverse, before.reverse, by simp, ?_⟩
    intro put hput
    exact bne_iff_ne.mpr (hafter put (List.mem_reverse.mp hput)).symm
  · rintro ⟨after, before, hputs, hafter⟩
    refine ⟨before.reverse, after.reverse, ?_, ?_⟩
    · rw [← List.reverse_reverse puts, hputs]
      simp
    · intro put hput
      exact (bne_iff_ne.mp (hafter put (List.mem_reverse.mp hput))).symm

section FromEmpty

variable {puts others : List (String × Group)}

theorem nodup_empty_putAll : (empty.putAll puts).names.Nodup := nodup_putAll puts List.nodup_nil

/-- What is found under a name is what was put there last. -/
theorem get?_empty_putAll_iff {name : String} {group : Group} :
    (empty.putAll puts).get? name = some group ↔ LastUnder puts name group := by
  have hnone : empty.get? name = none := rfl
  rw [get?_putAll, hnone, Option.or_none, lastUnder_iff_lookup]

theorem get?_empty_putAll_eq_none_iff {name : String} :
    (empty.putAll puts).get? name = none ↔ name ∉ puts.map Prod.fst := by
  rw [get?_eq_none_iff, names_putAll, List.mem_eraseDups]

/-- Puts come to the same inventory if they agree on the first put of every name, in order, and on
the last, and only then. -/
theorem empty_putAll_eq_iff :
    empty.putAll puts = empty.putAll others ↔
      (puts.map Prod.fst).eraseDups = (others.map Prod.fst).eraseDups ∧
        ∀ name group, LastUnder puts name group ↔ LastUnder others name group := by
  constructor
  · intro h
    constructor
    · rw [← names_putAll, ← names_putAll, h]
    · intro name group
      rw [← get?_empty_putAll_iff, ← get?_empty_putAll_iff, h]
  · rintro ⟨hfirst, hlast⟩
    refine eq_of_get?_eq nodup_empty_putAll ?_ ?_
    · rw [names_putAll, names_putAll, hfirst]
    · intro name
      apply Option.ext
      intro group
      rw [get?_empty_putAll_iff, get?_empty_putAll_iff, hlast name group]

end FromEmpty

/-- After any puts into an empty inventory, the distinct names stand in the order of their first
puts, each with the group of its last, and nothing else of the puts can be told. In particular a
group may be put in again under its name, and two names that are there in either order. -/
theorem puts_told_by_first_and_last (puts : List (String × Group)) :
    (empty.putAll puts).names.Nodup ∧
    (empty.putAll puts).names = (puts.map Prod.fst).eraseDups ∧
    (∀ name group, (empty.putAll puts).get? name = some group ↔ LastUnder puts name group) ∧
    (∀ name, (empty.putAll puts).get? name = none ↔ name ∉ puts.map Prod.fst) ∧
    (empty.putAll puts).size = (puts.map Prod.fst).eraseDups.length ∧
    (∀ others, empty.putAll puts = empty.putAll others ↔
      (puts.map Prod.fst).eraseDups = (others.map Prod.fst).eraseDups ∧
        ∀ name group, LastUnder puts name group ↔ LastUnder others name group) ∧
    (∀ name group, (empty.putAll puts).get? name = some group →
      (empty.putAll puts).put name group = empty.putAll puts) ∧
    ∀ name other group second, name ∈ (empty.putAll puts).names →
      other ∈ (empty.putAll puts).names → name ≠ other →
        ((empty.putAll puts).put name group).put other second =
          ((empty.putAll puts).put other second).put name group := by
  have hnodup : (empty.putAll puts).names.Nodup := nodup_empty_putAll
  refine ⟨hnodup, names_putAll puts, ?_, ?_, ?_, ?_, ?_, ?_⟩
  · exact fun name group => get?_empty_putAll_iff
  · exact fun name => get?_empty_putAll_eq_none_iff
  · rw [← names_putAll, names, List.length_map, size]
  · exact fun others => empty_putAll_eq_iff
  · exact fun name group h => put_of_get? hnodup h
  · exact fun name other group second hname hother hne => put_comm hnodup hname hother hne

def reachedAt (address : String) : Group := ⟨[address], address, "root"⟩

def putAgain : List (String × Group) :=
  [("web", reachedAt "10.0.0.1"), ("db", reachedAt "10.0.0.2"), ("web", reachedAt "10.0.0.3")]

/-- The name that came first stays first, with the group that came last. -/
theorem puts_told_by_first_and_last_again :
    (empty.putAll putAgain).names = ["web", "db"] ∧
    (empty.putAll putAgain).get? "web" = some (reachedAt "10.0.0.3") ∧
    (empty.putAll putAgain).put "web" (reachedAt "10.0.0.3") = empty.putAll putAgain ∧
    ((empty.putAll putAgain).put "web" (reachedAt "::1")).put "db" (reachedAt "::2") =
      ((empty.putAll putAgain).put "db" (reachedAt "::2")).put "web" (reachedAt "::1") ∧
    empty.putAll putAgain ≠ empty.putAll (putAgain.drop 1) := by
  obtain ⟨-, hnames, hlast, -, -, hequal, hagain, hcomm⟩ := puts_told_by_first_and_last putAgain
  have hweb : (empty.putAll putAgain).get? "web" = some (reachedAt "10.0.0.3") :=
    (hlast _ _).mpr ⟨putAgain.take 2, [], rfl, List.forall_mem_nil _⟩
  have horder : (putAgain.map Prod.fst).eraseDups = ["web", "db"] := by decide
  have hmem : ∀ name ∈ ["web", "db"], name ∈ (empty.putAll putAgain).names := by
    rw [hnames, horder]
    exact fun name h => h
  refine ⟨hnames.trans horder, hweb, hagain _ _ hweb, ?_, ?_⟩
  · exact hcomm "web" "db" _ _ (hmem _ (by decide)) (hmem _ (by decide)) (by decide)
  · intro h
    have hsame := ((hequal _).mp h).1
    revert hsame
    decide

end GuestInventory.Inventory
