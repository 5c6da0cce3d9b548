import GuestInventory.Inventory

/-!
The inventory as a map that keeps the order of its names. A name that is put in for the first time
goes behind the others, and one that is put in again only has its group replaced. So after any
number of puts the names stand in the order of their first ones, each with the group of its last.
-/
namespace GuestInventory.Inventory

def names (inventory : Inventory) : List String := inventory.entries.map Prod.fst

def putAll (inventory : Inventory) (puts : List (String × Group)) : Inventory :=
  puts.foldl (fun inventory entry => inventory.put entry.1 entry.2) inventory

variable (inventory : Inventory) (name : String) (group : Group)

/-- A name that is there already keeps its place. -/
theorem names_put_of_mem (h : name ∈ inventory.names) :
    (inventory.put name group).names = inventory.names := by
  obtain ⟨entries⟩ := inventory
  simp only [names, put] at h ⊢
  induction entries with
  | nil => exact absurd h List.not_mem_nil
  | cons entry rest ih =>
    obtain ⟨other, old⟩ := entry
    rw [putEntry]
    split
    · rename_i hother
      rw [List.map_cons, List.map_cons, hother]
    · rename_i hother
      have hrest := (List.mem_cons.mp h).resolve_left (Ne.symm hother)
      rw [List.map_cons, List.map_cons, ih hrest]

/-- A new name comes last. -/
theorem names_put_of_not_mem (h : name ∉ inventory.names) :
    (inventory.put name group).names = inventory.names ++ [name] := by
  obtain ⟨entries⟩ := inventory
  simp only [names, put] at h ⊢
  induction entries with
  | nil => rfl
  | cons entry rest ih =>
    obtain ⟨other, old⟩ := entry
    simp only [List.map_cons, List.mem_cons, not_or] at h
    rw [putEntry, if_neg (Ne.symm h.1), List.map_cons, ih h.2, List.map_cons, List.cons_append]

theorem nodup_put (h : inventory.names.Nodup) : (inventory.put name group).names.Nodup := by
  by_cases hname : name ∈ inventory.names
  · rwa [inventory.names_put_of_mem name group hname]
  · rw [inventory.names_put_of_not_mem name group hname]
    refine List.nodup_append.mpr ⟨h, by simp, ?_⟩
    rintro a ha b hb rfl
    exact hname (List.mem_singleton.mp hb ▸ ha)

/-- Where no name stands twice, a put leaves nothing else under its name. -/
theorem mem_put {inventory : Inventory} {entry : String × Group} (h : inventory.names.Nodup)
    (hentry : entry ∈ (inventory.put name group).entries) :
    entry = (name, group) ∨ entry.1 ≠ name ∧ entry ∈ inventory.entries := by
  obtain ⟨entries⟩ := inventory
  simp only [names, put] at h hentry ⊢
  induction entries with
  | nil => exact Or.inl (List.mem_singleton.mp hentry)
  | cons first rest ih =>
    obtain ⟨other, old⟩ := first
    rw [List.map_cons, List.nodup_cons] at h
    rw [putEntry] at hentry
    split at hentry
    · rename_i hother
      subst hother
      rcases List.mem_cons.mp hentry with hfirst | hrest
      · exact Or.inl hfirst
      · refine Or.inr ⟨?_, List.mem_cons_of_mem _ hrest⟩
        intro heq
        have hmem : entry.1 ∈ rest.map Prod.fst := List.mem_map_of_mem hrest
        exact h.1 (heq ▸ hmem)
    · rename_i hother
      rcases List.mem_cons.mp hentry with rfl | hrest
      · exact Or.inr ⟨hother, List.mem_cons_self⟩
      · refine (ih h.2 hrest).imp id ?_
        exact fun hold => ⟨hold.1, List.mem_cons_of_mem _ hold.2⟩

theorem nodup_putAll (puts : List (String × Group)) {inventory : Inventory}
    (h : inventory.names.Nodup) : (inventory.putAll puts).names.Nodup := by
  induction puts generalizing inventory with
  | nil => exact h
  | cons entry rest ih => exact ih (inventory.nodup_put entry.1 entry.2 h)

/-- One put goes on with the distinct names of the puts so far. -/
theorem names_put_eraseDups {seen : List String} (h : inventory.names = seen.eraseDups) :
    (inventory.put name group).names = (seen ++ [name]).eraseDups := by
  by_cases hname : name ∈ seen
  · have hmem : name ∈ inventory.names := by rwa [h, List.mem_eraseDups]
    rw [inventory.names_put_of_mem name group hmem, h, List.eraseDups_append]
    simp [List.removeAll, hname]
  · have hmem : name ∉ inventory.names := by rwa [h, List.mem_eraseDups]
    rw [inventory.names_put_of_not_mem name group hmem, h, List.eraseDups_append]
    simp [List.removeAll, hname, List.eraseDups_cons]

/-- By induction on the puts to come. -/
theorem names_putAll_eraseDups (puts : List (String × Group)) {seen : List String}
    (h : inventory.names = seen.eraseDups) :
    (inventory.putAll puts).names = (seen ++ puts.map Prod.fst).eraseDups := by
  induction puts generalizing inventory seen with
  | nil => simpa [putAll] using h
  | cons entry rest ih =>
    have hstep := ih _ (inventory.names_put_eraseDups entry.1 entry.2 h)
    rwa [List.append_assoc] at hstep

theorem names_putAll (puts : List (String × Group)) :
    (empty.putAll puts).names = (puts.map Prod.fst).eraseDups := by
  have h : empty.names = ([] : List String).eraseDups := rfl
  simpa using empty.names_putAll_eraseDups puts h

/-- What is in the inventory at the end was put in last under its name, or was there before and
its name was not put in at all. -/
theorem mem_putAll (puts : List (String × Group)) {inventory : Inventory}
    {entry : String × Group} (h : inventory.names.Nodup)
    (hentry : entry ∈ (inventory.putAll puts).entries) :
    (entry ∈ inventory.entries ∧ ∀ put ∈ puts, put.1 ≠ entry.1) ∨
      ∃ before after, puts = before ++ entry :: after ∧ ∀ put ∈ after, put.1 ≠ entry.1 := by
  induction puts generalizing inventory with
  | nil => exact Or.inl ⟨hentry, List.forall_mem_nil _⟩
  | cons first rest ih =>
    obtain ⟨name, group⟩ := first
    rcases ih (inventory.nodup_put name group h) hentry with ⟨hmem, hrest⟩ | hlater
    · rcases mem_put name group h hmem with rfl | ⟨hne, hmem⟩
      · exact Or.inr ⟨[], rest, rfl, hrest⟩
      · exact Or.inl ⟨hmem, List.forall_mem_cons.mpr ⟨Ne.symm hne, hrest⟩⟩
    · obtain ⟨before, after, rfl, hafter⟩ := hlater
      exact Or.inr ⟨(name, group) :: before, after, rfl, hafter⟩

end GuestInventory.Inventory
