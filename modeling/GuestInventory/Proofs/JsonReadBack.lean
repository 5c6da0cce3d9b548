import GuestInventory.Proofs.JsonReading

/-!
Documents that are written in printable ASCII are read back as they were. Things in brackets are
read one after another, whatever they are, so arrays and objects are two cases of one lemma. The
reader may nest as deep as a text is long, which is always deep enough.
-/
namespace GuestInventory.Json

section Layout

theorem skip_newline (depth : Nat) (cs : List Char) : skip (newline depth ++ cs) = skip cs := by
  have hblank : ∀ n, skip (List.replicate n ' ' ++ cs) = skip cs := by
    intro n
    induction n with
    | zero => rfl
    | succ n ih =>
      rw [List.replicate_succ]
      exact ih
  exact hblank (2 * depth)

theorem skip_of_not_blank {c : Char} {rest : List Char} (h : isBlank c = false) :
    skip (c :: rest) = c :: rest := by
  rw [skip, List.dropWhile_cons_of_neg (by simp [h])]

variable {read : List Char → Option (β × List Char)} {close : Char} {form : α → List Char}
    {meaning : α → β} {depth : Nat}

def following (form : α → List Char) (depth : Nat) (things : List α) : List Char :=
  things.flatMap fun a => ',' :: (newline depth ++ form a)

/-- By induction on the things to come. -/
theorem sequence_following (hclose : isBlank close = false) (hcomma : close ≠ ',') (first : α)
    (rest : List α) (count : Nat) (hcount : rest.length < count)
    (hread : ∀ a ∈ first :: rest, ∀ after,
      read (newline depth ++ (form a ++ after)) = some (meaning a, after)) (after : List Char)
    (outer : Nat) :
    sequence read close count (newline depth ++ (form first ++ (following form depth rest ++
      (newline outer ++ close :: after)))) = some (meaning first :: rest.map meaning, after) := by
  induction rest generalizing first count with
  | nil =>
    obtain ⟨count, rfl⟩ : ∃ n, count = n + 1 := ⟨count - 1, by omega⟩
    have hfirst := hread first List.mem_cons_self (newline outer ++ close :: after)
    have hskip : skip (newline outer ++ close :: after) = close :: after := by
      rw [skip_newline, skip_of_not_blank hclose]
    simp [sequence, following, hfirst, hskip, hcomma]
  | cons second rest ih =>
    obtain ⟨count, rfl⟩ : ∃ n, count = n + 1 := ⟨count - 1, by omega⟩
    have hfirst := hread first List.mem_cons_self (following form depth (second :: rest) ++
      (newline outer ++ close :: after))
    have hfollowing : following form depth (second :: rest) ++ (newline outer ++ close :: after) =
        ',' :: (newline depth ++ (form second ++ (following form depth rest ++
          (newline outer ++ close :: after)))) := by
      simp [following]
    have hmore := ih second count (by simpa using hcount)
      fun a ha => hread a (List.mem_cons_of_mem first ha)
    rw [hfollowing] at hfirst ⊢
    have hskip (cs : List Char) : skip (',' :: cs) = ',' :: cs := skip_of_not_blank rfl
    simp [sequence, hfirst, hskip, hmore]

theorem length_following (things : List α) :
    things.length ≤ (following form depth things).length := by
  induction things with
  | nil => exact Nat.le_refl _
  | cons a rest ih =>
    simp only [following, List.flatMap_cons, List.length_append, List.length_cons] at ih ⊢
    omega

theorem length_form_le {first a : α} {rest : List α} (ha : a ∈ first :: rest) :
    (form a).length ≤ (form first ++ following form depth rest).length := by
  rw [List.length_append]
  rcases List.mem_cons.mp ha with rfl | ha
  · omega
  · have hmem := List.mem_map_of_mem (f := fun a => ',' :: (newline depth ++ form a)) ha
    have hlength := (List.sublist_flatten_of_mem hmem).length_le
    have hform : (form a).length ≤ (',' :: (newline depth ++ form a)).length := by
      simp only [List.length_cons, List.length_append]
      omega
    exact Nat.le_trans hform (Nat.le_trans hlength (Nat.le_add_left _ _))

variable (close) in
/-- What does not begin with `close` is not nothing. -/
theorem listed_following (hclose : isBlank close = false) (hcomma : close ≠ ',') {first : α}
    {c : Char} {tail : List Char} (hfirst : form first = c :: tail) (hblank : isBlank c = false)
    (hc : c ≠ close) (rest : List α)
    (hread : ∀ a ∈ first :: rest, ∀ after,
      read (newline depth ++ (form a ++ after)) = some (meaning a, after)) (after : List Char)
    (outer : Nat) :
    listed read close (newline depth ++ (form first ++ (following form depth rest ++
      (newline outer ++ close :: after)))) = some (meaning first :: rest.map meaning, after) := by
  have hskip (cs : List Char) : skip (newline depth ++ (form first ++ cs)) = c :: (tail ++ cs) := by
    rw [skip_newline, hfirst, List.cons_append, skip_of_not_blank hblank]
  have hcount : rest.length < (newline depth ++ (form first ++ (following form depth rest ++
      (newline outer ++ close :: after)))).length := by
    have hlength : rest.length ≤ (following form depth rest).length := length_following rest
    simp only [List.length_append, List.length_cons]
    omega
  rw [listed, hskip]
  dsimp only
  rw [if_neg hc]
  exact sequence_following hclose hcomma first rest _ hcount hread after outer

theorem writeItems_eq (writeChar : Char → List Char) (depth : Nat) (items : List Value) :
    writeItems writeChar depth items = following (write writeChar depth) depth items := by
  induction items with
  | nil => rfl
  | cons item rest ih =>
    rw [writeItems, ih]
    simp [following]

theorem writeMembers_eq (writeChar : Char → List Char) (depth : Nat)
    (members : List (String × Value)) :
    writeMembers writeChar depth members =
      following (writeMember writeChar depth) depth members := by
  induction members with
  | nil => rfl
  | cons member rest ih =>
    rw [writeMembers, ih]
    simp [following]

end Layout

section Documents

mutual

def Value.tree : Value → Tree
  | .string s => .string s
  | .array items => .array (treeItems items)
  | .object members => .object (treeMembers members)

def treeItems : List Value → List Tree
  | [] => []
  | item :: rest => item.tree :: treeItems rest

def treeMembers : List (String × Value) → List (String × Tree)
  | [] => []
  | (name, v) :: rest => (name, v.tree) :: treeMembers rest

end

theorem treeItems_eq (items : List Value) : treeItems items = items.map Value.tree := by
  induction items with
  | nil => rfl
  | cons item rest ih => rw [treeItems, ih, List.map_cons]

theorem treeMembers_eq (members : List (String × Value)) :
    treeMembers members = members.map fun m => (m.1, m.2.tree) := by
  induction members with
  | nil => rfl
  | cons member rest ih => rw [treeMembers, ih, List.map_cons]

theorem value_congr {cs cs' : List Char} (n : Nat) (h : skip cs = skip cs') :
    value n cs = value n cs' := by
  cases n with
  | zero => rfl
  | succ n => rw [value, value, h]

theorem value_quote (n : Nat) (rest : List Char) :
    value (n + 1) ('"' :: rest) = (text ('"' :: rest)).map fun p => (.string p.1, p.2) := by
  rw [value, skip_of_not_blank rfl]
  dsimp only
  rw [if_pos rfl]
  cases text ('"' :: rest) <;> rfl

theorem value_bracket (n : Nat) (rest : List Char) :
    value (n + 1) ('[' :: rest) =
      (listed (value n) ']' rest).map fun p => (.array p.1, p.2) := by
  rw [value, skip_of_not_blank rfl]
  dsimp only
  rw [if_neg (by decide), if_pos rfl]
  cases listed (value n) ']' rest <;> rfl

theorem value_brace (n : Nat) (rest : List Char) :
    value (n + 1) ('\x7b' :: rest) =
      (listed (member (value n)) '\x7d' rest).map fun p => (.object p.1, p.2) := by
  rw [value, skip_of_not_blank rfl]
  dsimp only
  rw [if_neg (by decide), if_neg (by decide), if_pos rfl]
  cases listed (member (value n)) '\x7d' rest <;> rfl

theorem listed_nothing {read : List Char → Option (β × List Char)} {close : Char}
    (hclose : isBlank close = false) (after : List Char) :
    listed read close (close :: after) = some ([], after) := by
  rw [listed, skip_of_not_blank hclose]
  dsimp only
  rw [if_pos rfl]

/-- `v` is read back, whatever follows it, if nesting may go as deep as it is long. -/
def ReadBack (v : Value) : Prop :=
  ∀ depth n after, (write asciiChar depth v).length ≤ n →
    value n (write asciiChar depth v ++ after) = some (v.tree, after)

theorem readBack_string (s : String) : ReadBack (.string s) := by
  intro depth n after hn
  have hwrite : write asciiChar depth (.string s) = quoted asciiChar s := by rw [write]
  rw [hwrite] at hn ⊢
  obtain ⟨n, rfl⟩ : ∃ k, n = k + 1 := ⟨n - 1, by simp [quoted] at hn; omega⟩
  have htext := text_quoted s after
  rw [quoted, List.cons_append] at htext ⊢
  rw [value_quote, htext, Option.map_some, Value.tree]

/-- A value begins with a mark of its own, which is not the end of an array. -/
theorem write_head (writeChar : Char → List Char) (depth : Nat) (v : Value) :
    ∃ c tail, write writeChar depth v = c :: tail ∧ isBlank c = false ∧ c ≠ ']' := by
  match v with
  | .string s => exact ⟨_, _, by rw [write, quoted], rfl, by decide⟩
  | .array [] => exact ⟨_, _, by rw [write], rfl, by decide⟩
  | .array (item :: rest) => exact ⟨_, _, by rw [write], rfl, by decide⟩
  | .object [] => exact ⟨_, _, by rw [write], rfl, by decide⟩
  | .object (m :: rest) => exact ⟨_, _, by rw [write], rfl, by decide⟩

theorem readBack_array (items : List Value) (h : ∀ v ∈ items, ReadBack v) :
    ReadBack (.array items) := by
  intro depth n after hn
  cases items with
  | nil =>
    rw [write] at hn ⊢
    obtain ⟨n, rfl⟩ : ∃ k, n = k + 1 := ⟨n - 1, by simp at hn; omega⟩
    rw [List.cons_append, List.singleton_append, value_bracket, listed_nothing rfl]
    rfl
  | cons item rest =>
    let body := write asciiChar (depth + 1) item ++
      following (write asciiChar (depth + 1)) (depth + 1) rest
    have hwrite : write asciiChar depth (.array (item :: rest)) =
        '[' :: (newline (depth + 1) ++ (body ++ (newline depth ++ [']']))) := by
      rw [write, writeItems_eq, List.append_assoc]
    rw [hwrite] at hn ⊢
    simp only [List.length_cons, List.length_append] at hn
    obtain ⟨n, rfl⟩ : ∃ k, n = k + 1 := ⟨n - 1, by omega⟩
    obtain ⟨c, tail, hfirst, hblank, hc⟩ := write_head asciiChar (depth + 1) item
    have hread : ∀ v ∈ item :: rest, ∀ after, value n (newline (depth + 1) ++
        (write asciiChar (depth + 1) v ++ after)) = some (v.tree, after) := by
      intro v hv after
      have hle : (write asciiChar (depth + 1) v).length ≤ body.length := length_form_le hv
      rw [value_congr n (skip_newline _ _)]
      exact h v hv (depth + 1) n after (by omega)
    have hlisted := listed_following ']' rfl (by decide) hfirst hblank hc rest hread after depth
    rw [List.cons_append, value_bracket]
    simp only [body, List.append_assoc, List.cons_append, List.nil_append]
    rw [hlisted, Option.map_some, Value.tree, treeItems_eq, List.map_cons]

theorem member_written (name : String) (v : Value) (h : ReadBack v) (depth n : Nat)
    (hn : (write asciiChar depth v).length ≤ n) (after : List Char) :
    member (value n) (newline depth ++ (writeMember asciiChar depth (name, v) ++ after)) =
      some ((name, v.tree), after) := by
  have hname := text_quoted name (':' :: ' ' :: (write asciiChar depth v ++ after))
  have hskip : skip (newline depth ++ (writeMember asciiChar depth (name, v) ++ after)) =
      quoted asciiChar name ++ (':' :: ' ' :: (write asciiChar depth v ++ after)) := by
    rw [skip_newline, writeMember, List.append_assoc]
    exact skip_of_not_blank rfl
  have hcolon (cs : List Char) : skip (':' :: cs) = ':' :: cs := skip_of_not_blank rfl
  have hblank : skip (' ' :: (write asciiChar depth v ++ after)) =
      skip (write asciiChar depth v ++ after) := rfl
  have hvalue := (value_congr n hblank).trans (h depth n after hn)
  simp [member, hskip, hname, hcolon, hvalue]

theorem readBack_object (members : List (String × Value)) (h : ∀ m ∈ members, ReadBack m.2) :
    ReadBack (.object members) := by
  intro depth n after hn
  cases members with
  | nil =>
    rw [write] at hn ⊢
    obtain ⟨n, rfl⟩ : ∃ k, n = k + 1 := ⟨n - 1, by simp at hn; omega⟩
    rw [List.cons_append, List.singleton_append, value_brace, listed_nothing rfl]
    rfl
  | cons first rest =>
    let body := writeMember asciiChar (depth + 1) first ++
      following (writeMember asciiChar (depth + 1)) (depth + 1) rest
    have hwrite : write asciiChar depth (.object (first :: rest)) =
        '\x7b' :: (newline (depth + 1) ++ (body ++ (newline depth ++ ['\x7d']))) := by
      rw [write, writeMembers_eq, List.append_assoc]
    rw [hwrite] at hn ⊢
    simp only [List.length_cons, List.length_append] at hn
    obtain ⟨n, rfl⟩ : ∃ k, n = k + 1 := ⟨n - 1, by omega⟩
    have hread : ∀ m ∈ first :: rest, ∀ after, member (value n) (newline (depth + 1) ++
        (writeMember asciiChar (depth + 1) m ++ after)) = some ((m.1, m.2.tree), after) := by
      rintro ⟨name, v⟩ hm after
      have hle : (writeMember asciiChar (depth + 1) (name, v)).length ≤ body.length :=
        length_form_le hm
      rw [writeMember, List.length_append, List.length_cons, List.length_cons] at hle
      exact member_written name v (h _ hm) (depth + 1) n (by omega) after
    obtain ⟨tail, hfirst⟩ : ∃ tail, writeMember asciiChar (depth + 1) first = '"' :: tail :=
      ⟨_, by rw [writeMember, quoted, List.cons_append]⟩
    have hlisted := listed_following '\x7d' rfl (by decide) hfirst rfl (by decide) rest hread
      after depth
    rw [List.cons_append, value_brace]
    simp only [body, List.append_assoc, List.cons_append, List.nil_append]
    rw [hlisted, Option.map_some, Value.tree, treeMembers_eq, List.map_cons]

mutual

/-- By induction on the value, with one case for each form of it. -/
theorem readBack : (v : Value) → ReadBack v
  | .string s => readBack_string s
  | .array items => readBack_array items (readBackItems items)
  | .object members => readBack_object members (readBackMembers members)

theorem readBackItems : (items : List Value) → ∀ v ∈ items, ReadBack v
  | [] => List.forall_mem_nil _
  | item :: rest => List.forall_mem_cons.mpr ⟨readBack item, readBackItems rest⟩

theorem readBackMembers : (members : List (String × Value)) → ∀ m ∈ members, ReadBack m.2
  | [] => List.forall_mem_nil _
  | (_, v) :: rest => List.forall_mem_cons.mpr ⟨readBack v, readBackMembers rest⟩

end

/-- A document is read as what its value says. -/
theorem parse_ascii (v : Value) : parse (ascii v) = some v.tree := by
  have hlist : (ascii v).toList = write asciiChar 0 v := String.toList_ofList
  have hlength : (ascii v).length = (write asciiChar 0 v).length := by
    rw [← String.length_toList, hlist]
  have h := readBack v 0 _ [] (Nat.le_of_eq hlength.symm)
  rw [List.append_nil] at h
  rw [parse, hlist, h]
  rfl

/-- Texts that were written otherwise are read as well. -/
example : parse " [true, -0.5e+1,\t\"\\ud83d\\uDE00\\/\", \x7b\"a\" : null\x7d]\n" = some (.array
    [.bool true, .number "-0.5e+1", .string "😀/", .object [("a", .null)]]) := rfl

end Documents

end GuestInventory.Json
