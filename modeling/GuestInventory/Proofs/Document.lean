import GuestInventory.Inventory
import GuestInventory.Proofs.JsonReadBack

/-!
The inventory document is printable ASCII in lines, and nothing is lost in it. A line is broken only
between literals. What the document says can be read off it by any reader of JSON, and no other
inventory has the same document.
-/
namespace GuestInventory

namespace Json

/-- The characters of a text, each with whether it belongs to a string literal. `inside` says
whether the text begins within one. -/
def marked : (inside : Bool) → List Char → List (Char × Bool)
  | _, [] => []
  | false, c :: rest => (c, c == '"') :: marked (c == '"') rest
  | true, '\\' :: c :: rest => ('\\', true) :: (c, true) :: marked true rest
  | true, c :: rest => (c, true) :: marked (c != '"') rest

def Allowed (p : Char × Bool) : Prop := Printable p.1 ∨ p.1 = '\n' ∧ p.2 = false

/-- `cs` begins and ends inside, or outside, of literals, and all of it is allowed there. -/
def Neat (inside : Bool) (cs : List Char) : Prop :=
  ∀ rest, (∀ p ∈ marked inside rest, Allowed p) → ∀ p ∈ marked inside (cs ++ rest), Allowed p

namespace Neat

variable {inside : Bool} {cs more : List Char}

theorem nil : Neat inside [] := fun _ h => h

theorem append (h : Neat inside cs) (hmore : Neat inside more) : Neat inside (cs ++ more) := by
  intro rest hrest
  rw [List.append_assoc]
  exact h _ (hmore rest hrest)

theorem flatMap {f : α → List Char} {items : List α} (h : ∀ a ∈ items, Neat inside (f a)) :
    Neat inside (items.flatMap f) := by
  induction items with
  | nil => exact nil
  | cons a rest ih =>
    rw [List.forall_mem_cons] at h
    rw [List.flatMap_cons]
    exact h.1.append (ih h.2)

theorem outside {c : Char} (hquote : c ≠ '"') (hc : Printable c ∨ c = '\n') : Neat false [c] := by
  intro rest hrest
  have hother : (c == '"') = false := beq_eq_false_iff_ne.mpr hquote
  have hmarked : marked false ([c] ++ rest) = (c, false) :: marked false rest := by
    simp [marked, hother]
  rw [hmarked, List.forall_mem_cons]
  exact ⟨hc.imp id fun hc => ⟨hc, rfl⟩, hrest⟩

theorem inside_plain {c : Char} (hc : Printable c) (hquote : c ≠ '"') (hbackslash : c ≠ '\\') :
    Neat true [c] := by
  intro rest hrest
  have hother : (c != '"') = true := bne_iff_ne.mpr hquote
  have hmarked : marked true ([c] ++ rest) = (c, true) :: marked true rest := by
    simp [marked, hother, hbackslash]
  rw [hmarked, List.forall_mem_cons]
  exact ⟨Or.inl hc, hrest⟩

theorem inside_short {c : Char} (hc : Printable c) : Neat true ['\\', c] := by
  intro rest hrest
  simp only [List.cons_append, List.nil_append, marked, List.forall_mem_cons]
  exact ⟨Or.inl (by decide), Or.inl hc, hrest⟩

theorem digit (n : Nat) : Neat true [Hex.digit (n % 16)] := by
  have hall : ∀ i : Fin 16, Printable (Hex.digit i) ∧ Hex.digit i ≠ '"' ∧ Hex.digit i ≠ '\\' := by
    decide
  obtain ⟨hprintable, hquote, hbackslash⟩ := hall ⟨n % 16, Nat.mod_lt n (by decide)⟩
  exact inside_plain hprintable hquote hbackslash

theorem unitEscape (n : Nat) : Neat true (unitEscape n) := by
  rw [unitEscape_eq]
  exact (inside_short (c := 'u') (by decide)).append <|
    (digit _).append <| (digit _).append <| (digit _).append (digit n)

/-- However a character is written, it does not end its literal. -/
theorem asciiChar (c : Char) : Neat true (asciiChar c) := by
  have h := written_asciiChar c
  generalize Json.asciiChar c = lead at h
  cases h with
  | plain hc hquote hbackslash => exact inside_plain hc hquote hbackslash
  | short he hprintable => exact inside_short hprintable
  | units => exact flatMap fun n _ => unitEscape n

/-- A literal opens with a quote and closes with the next one that is not escaped. -/
theorem quoted (s : String) : Neat false (Json.quoted Json.asciiChar s) := by
  intro rest hrest
  have hclose : ∀ p ∈ marked true ('"' :: rest), Allowed p := by
    rw [show marked true ('"' :: rest) = ('"', true) :: marked false rest from rfl,
      List.forall_mem_cons]
    exact ⟨Or.inl (by decide), hrest⟩
  have hchars : Neat true (s.toList.flatMap Json.asciiChar) := flatMap fun c _ => asciiChar c
  have hbody := hchars _ hclose
  have hopen : marked false (Json.quoted Json.asciiChar s ++ rest) =
      ('"', true) :: marked true (s.toList.flatMap Json.asciiChar ++ '"' :: rest) := by
    simp [Json.quoted, marked]
  rw [hopen, List.forall_mem_cons]
  exact ⟨Or.inl (by decide), hbody⟩

theorem newline (depth : Nat) : Neat false (newline depth) := by
  have hspaces : ∀ n, Neat false (List.replicate n ' ') := by
    intro n
    induction n with
    | zero => exact nil
    | succ n ih => exact (outside (c := ' ') (by decide) (by decide)).append ih
  exact (outside (c := '\n') (by decide) (Or.inr rfl)).append (hspaces (2 * depth))

theorem following {form : α → List Char} {depth : Nat} {things : List α}
    (h : ∀ a ∈ things, Neat false (form a)) : Neat false (following form depth things) :=
  flatMap fun a ha =>
    (outside (c := ',') (by decide) (by decide)).append ((newline depth).append (h a ha))

/-- Things in brackets, each on its line. -/
theorem enclosed {form : α → List Char} {before after : Char} {first : α} {rest : List α}
    (hbefore : before ≠ '"' ∧ Printable before) (hafter : after ≠ '"' ∧ Printable after)
    (depth : Nat) (h : ∀ a ∈ first :: rest, Neat false (form a)) :
    Neat false (before :: (Json.newline (depth + 1) ++ (form first ++
      (Json.following form (depth + 1) rest ++ (Json.newline depth ++ [after]))))) := by
  rw [List.forall_mem_cons] at h
  refine (outside hbefore.1 (Or.inl hbefore.2)).append ?_
  refine (newline (depth + 1)).append (h.1.append ((following h.2).append ?_))
  exact (newline depth).append (outside hafter.1 (Or.inl hafter.2))

theorem member {depth : Nat} {m : String × Value}
    (h : Neat false (write Json.asciiChar depth m.2)) :
    Neat false (writeMember Json.asciiChar depth m) := by
  rw [writeMember]
  refine (quoted m.1).append ((outside (c := ':') (by decide) (by decide)).append ?_)
  exact (outside (c := ' ') (by decide) (by decide)).append h

mutual

/-- By induction on the value: a document begins and ends outside of literals. -/
theorem write : (v : Value) → ∀ depth, Neat false (write Json.asciiChar depth v)
  | .string s => fun depth => by
    rw [Json.write]
    exact quoted s
  | .array [] => fun depth => by
    rw [Json.write]
    exact (outside (c := '[') (by decide) (by decide)).append (outside (by decide) (by decide))
  | .array (item :: rest) => fun depth => by
    rw [Json.write, writeItems_eq]
    exact enclosed (by decide) (by decide) depth fun v hv =>
      writeItems (item :: rest) v hv (depth + 1)
  | .object [] => fun depth => by
    rw [Json.write]
    exact (outside (c := '\x7b') (by decide) (by decide)).append (outside (by decide) (by decide))
  | .object (first :: rest) => fun depth => by
    rw [Json.write, writeMembers_eq]
    exact enclosed (by decide) (by decide) depth fun m hm =>
      member (writeMembers (first :: rest) m hm (depth + 1))

theorem writeItems : (items : List Value) → ∀ v ∈ items, ∀ depth,
    Neat false (Json.write Json.asciiChar depth v)
  | [] => List.forall_mem_nil _
  | item :: rest => List.forall_mem_cons.mpr ⟨write item, writeItems rest⟩

theorem writeMembers : (members : List (String × Value)) → ∀ m ∈ members, ∀ depth,
    Neat false (Json.write Json.asciiChar depth m.2)
  | [] => List.forall_mem_nil _
  | (_, v) :: rest => List.forall_mem_cons.mpr ⟨write v, writeMembers rest⟩

end

end Neat

/-- Nothing but what is allowed stands in a document. -/
theorem allowed_ascii (v : Value) : ∀ p ∈ marked false (ascii v).toList, Allowed p := by
  have h := Neat.write v 0 [] (List.forall_mem_nil _)
  rwa [List.append_nil, ← show (ascii v).toList = _ from String.toList_ofList] at h

end Json

open Json (Tree)

def Group.tree (g : Group) : Tree :=
  .object [("hosts", .array (g.hosts.map .string)),
    ("vars", .object [("ansible_host", .string g.address), ("ansible_user", .string g.user)])]

theorem Group.tree_json (g : Group) : g.json.tree = g.tree := by
  simp [Group.json, Group.tree, Json.Value.tree, Json.treeMembers_eq, Json.treeItems_eq]

theorem Group.tree_injective {g g' : Group} (h : g.tree = g'.tree) : g = g' := by
  have hstring : ∀ s s' : String, Tree.string s = Tree.string s' → s = s' := by
    intro s s' hs
    injection hs
  cases g
  cases g'
  simp only [Group.tree, Tree.object.injEq, Tree.array.injEq, Tree.string.injEq, List.cons.injEq,
    Prod.mk.injEq, and_true, true_and, List.map_inj_right hstring] at h
  obtain ⟨rfl, rfl, rfl⟩ := h
  rfl

namespace Inventory

def tree (inventory : Inventory) : Tree :=
  .object (inventory.entries.map fun (name, group) => (name, group.tree))

theorem tree_json (inventory : Inventory) : inventory.json.tree = inventory.tree := by
  simp [Inventory.json, Inventory.tree, Json.Value.tree, Json.treeMembers_eq, Group.tree_json]

/-- Inventories whose documents say the same are the same. -/
theorem tree_injective {inventory other : Inventory} (h : inventory.tree = other.tree) :
    inventory = other := by
  have hentry : ∀ x y : String × Group, (x.1, x.2.tree) = (y.1, y.2.tree) → x = y := by
    intro x y hxy
    rw [Prod.mk.injEq] at hxy
    exact Prod.ext hxy.1 (Group.tree_injective hxy.2)
  cases inventory
  cases other
  simp only [Inventory.tree, Tree.object.injEq] at h
  rw [(List.map_inj_right hentry).mp h]

/-- The document is printable ASCII, broken into lines only outside of literals; it says what the
inventory is, group by group; and it is the document of no other inventory. -/
theorem text_lossless (inventory : Inventory) :
    (∀ p ∈ Json.marked false inventory.text.toList,
      (0x20 ≤ p.1.toNat ∧ p.1.toNat ≤ 0x7e) ∨ p.1 = '\n' ∧ p.2 = false) ∧
    Json.parse inventory.text = some (.object (inventory.entries.map fun (name, group) =>
      (name, .object [("hosts", .array (group.hosts.map .string)),
        ("vars", .object [("ansible_host", .string group.address),
          ("ansible_user", .string group.user)])]))) ∧
    ∀ other : Inventory, other.text = inventory.text → other = inventory := by
  have hparse (i : Inventory) : Json.parse i.text = some i.tree := by
    rw [text, Json.parse_ascii, tree_json]
  refine ⟨Json.allowed_ascii inventory.json, hparse inventory, ?_⟩
  intro other htext
  have hsame := hparse other
  rw [htext, hparse inventory, Option.some.injEq] at hsame
  exact (tree_injective hsame).symm

end Inventory

end GuestInventory
