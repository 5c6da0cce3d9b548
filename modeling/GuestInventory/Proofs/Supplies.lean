import GuestInventory.Proofs.Reading

/-!
Arrays with a maximum, from any supply. A supply gives its items as a chain of states with an item
between each and the next, and what becomes of the chain is told by its length and by its end: it
is handed over whole, it is one item too long, or it breaks off. On the wire the count is told
ahead, and one look at it is all that a maximum adds to a plain array.
-/
namespace GuestInventory.Xdr

namespace Supply

inductive Gives (s : Supply σ α) : σ → List α → σ → Prop
  | nothing (state : σ) : Gives s state [] state
  | item {state next last : σ} {a : α} {items : List α} (ha : s.next state = .ok (some a) next)
      (hrest : Gives s next items last) : Gives s state (a :: items) last

/-- What comes of a supply where there is room for `maximum` items. -/
inductive Comes (s : Supply σ α) (maximum : Nat) (state : σ) :
    EStateM.Result Error σ (List α) → Prop
  | whole {items : List α} {last final : σ} (hitems : s.Gives state items last)
      (hend : s.next last = .ok none final) (hlength : items.length ≤ maximum) :
      Comes s maximum state (.ok items final)
  | tooLong {items : List α} {last : σ} (hitems : s.Gives state items last)
      (hlength : items.length = maximum + 1) :
      Comes s maximum state (.error (.arrayTooLong (maximum + 1) maximum) last)
  | broken {items : List α} {last final : σ} {e : Error} (hitems : s.Gives state items last)
      (hend : s.next last = .error e final) (hlength : items.length ≤ maximum) :
      Comes s maximum state (.error e final)

variable {s : Supply σ α} {state next last final : σ} {a : α} {items : List α} {e : Error}

section Drain

variable (maximum room : Nat) (taken : List α)

theorem drain_end (h : s.next state = .ok none final) :
    s.drain maximum room taken state = .ok taken.reverse final := by
  cases room <;> simp only [drain, Bind.bind, EStateM.bind, h] <;> rfl

theorem drain_broken (h : s.next state = .error e final) :
    s.drain maximum room taken state = .error e final := by
  cases room <;> simp only [drain, Bind.bind, EStateM.bind, h]

/-- An item for which there is no room is the last that is asked for. -/
theorem drain_full (h : s.next state = .ok (some a) next) :
    s.drain maximum 0 taken state = .error (.arrayTooLong (maximum + 1) maximum) next := by
  simp only [drain, Bind.bind, EStateM.bind, h]
  rfl

/-- Items for which there is room are taken. -/
theorem drain_gives (h : s.Gives state items last) :
    s.drain maximum (items.length + room) taken state =
      s.drain maximum room (items.reverse ++ taken) last := by
  induction h generalizing taken with
  | nothing state => rw [List.length_nil, Nat.zero_add, List.reverse_nil, List.nil_append]
  | @item state next last a items ha hrest ih =>
    rw [List.length_cons, Nat.add_right_comm, drain]
    simp only [Bind.bind, EStateM.bind, ha]
    rw [ih (a :: taken), List.reverse_cons, List.append_assoc, List.singleton_append]

end Drain

/-- The last item of a chain is given in the state that the others lead to. -/
theorem Gives.last_item (h : s.Gives state (items ++ [a]) last) :
    ∃ between, s.Gives state items between ∧ s.next between = .ok (some a) last := by
  induction items generalizing state with
  | nil =>
    cases h with
    | item ha hrest =>
      cases hrest
      exact ⟨state, .nothing state, ha⟩
  | cons b items ih =>
    cases h with
    | item hb hrest =>
      obtain ⟨between, hitems, ha⟩ := ih hrest
      exact ⟨between, .item hb hitems, ha⟩

variable {maximum : Nat} {r : EStateM.Result Error σ (List α)}

theorem drain_of_comes (h : s.Comes maximum state r) : s.drain maximum maximum [] state = r := by
  have hfit {items : List α} {last : σ} (hitems : s.Gives state items last)
      (hlength : items.length ≤ maximum) :
      s.drain maximum maximum [] state =
        s.drain maximum (maximum - items.length) items.reverse last := by
    have hdrain := drain_gives maximum (maximum - items.length) [] hitems
    rwa [List.append_nil, Nat.add_sub_cancel' hlength] at hdrain
  cases h with
  | whole hitems hend hlength =>
    rw [hfit hitems hlength, drain_end _ _ _ hend, List.reverse_reverse]
  | @tooLong items last hitems hlength =>
    -- All items but the last fill the room.
    rcases List.eq_nil_or_concat items with rfl | ⟨front, a, rfl⟩
    · cases hlength
    · rw [List.concat_eq_append] at hitems hlength
      rw [List.length_append, List.length_singleton, Nat.add_right_cancel_iff] at hlength
      obtain ⟨between, hfront, ha⟩ := hitems.last_item
      rw [hfit hfront (Nat.le_of_eq hlength), hlength, Nat.sub_self, drain_full _ _ ha]
  | broken hitems hend hlength => rw [hfit hitems hlength, drain_broken _ _ _ hend]

theorem Comes.behind (ha : s.next state = .ok (some a) next) (h : s.Comes maximum next r) :
    ∃ r, s.Comes (maximum + 1) state r := by
  cases h with
  | whole hitems hend hlength =>
    exact ⟨_, .whole (.item ha hitems) hend (Nat.succ_le_succ hlength)⟩
  | tooLong hitems hlength => exact ⟨_, .tooLong (.item ha hitems) (congrArg (· + 1) hlength)⟩
  | broken hitems hend hlength =>
    exact ⟨_, .broken (.item ha hitems) hend (Nat.succ_le_succ hlength)⟩

/-- Something comes of every supply, also of one without an end. By induction on the room. -/
theorem exists_comes (s : Supply σ α) (maximum : Nat) (state : σ) :
    ∃ r, s.Comes maximum state r := by
  induction maximum generalizing state with
  | zero =>
    cases hnext : s.next state with
    | error e final => exact ⟨_, .broken (.nothing state) hnext (Nat.le_refl 0)⟩
    | ok offered next =>
      cases offered with
      | none => exact ⟨_, .whole (.nothing state) hnext (Nat.le_refl 0)⟩
      | some a => exact ⟨_, .tooLong (.item hnext (.nothing next)) rfl⟩
  | succ maximum ih =>
    cases hnext : s.next state with
    | error e final => exact ⟨_, .broken (.nothing state) hnext (Nat.zero_le _)⟩
    | ok offered next =>
      cases offered with
      | none => exact ⟨_, .whole (.nothing state) hnext (Nat.zero_le _)⟩
      | some a =>
        obtain ⟨r, hr⟩ := ih next
        exact hr.behind hnext

/-- Draining a supply gives what comes of it, and nothing else. -/
theorem drain_eq_iff : s.drain maximum maximum [] state = r ↔ s.Comes maximum state r := by
  refine ⟨?_, drain_of_comes⟩
  rintro rfl
  obtain ⟨r, hr⟩ := exists_comes s maximum state
  rwa [drain_of_comes hr]

theorem atMost_of_lt (h : maximum < s.announced.getD 0) :
    s.atMost maximum state = .error (.arrayTooLong (s.announced.getD 0) maximum) state := by
  simp only [atMost, if_pos h]
  rfl

theorem atMost_of_le (h : s.announced.getD 0 ≤ maximum) :
    s.atMost maximum state = s.drain maximum maximum [] state := by
  simp only [atMost, if_neg (Nat.not_lt.mpr h)]

/-- Whatever was announced, no more than the maximum is handed over. -/
theorem length_le_of_atMost (h : s.atMost maximum state = .ok items final) :
    items.length ≤ maximum := by
  by_cases hannounced : maximum < s.announced.getD 0
  · rw [atMost_of_lt hannounced] at h
    cases h
  · rw [atMost_of_le (Nat.le_of_not_lt hannounced), drain_eq_iff] at h
    cases h with
    | whole hitems hend hlength => exact hlength

end Supply

section Wire

variable {item : Reader α} {maximum : Nat}

theorem boundedArray_short {unread : Bytes} (h : unread.length < 4) :
    Reader.boundedArray maximum item unread = .error .endOfInput unread := by
  simp only [Reader.boundedArray, Bind.bind, EStateM.bind, word_of_lt h]

/-- Of a list that announces too many items, only the count is read. -/
theorem boundedArray_of_lt {count : UInt32} (h : maximum < count.toNat) (rest : Bytes) :
    Reader.boundedArray maximum item (Bytes.ofWord count ++ rest) =
      .error (.arrayTooLong count.toNat maximum) rest := by
  rw [boundedArray_eq]
  simp only [Bind.bind, EStateM.bind, Reads.word count rest, if_pos h]
  rfl

/-- Any other list is read as one without a maximum. -/
theorem boundedArray_of_le {count : UInt32} (h : count.toNat ≤ maximum) (rest : Bytes) :
    Reader.boundedArray maximum item (Bytes.ofWord count ++ rest) =
      Reader.array item (Bytes.ofWord count ++ rest) := by
  rw [boundedArray_eq, Reader.array]
  simp only [Bind.bind, EStateM.bind, Reads.word count rest, if_neg (Nat.not_lt.mpr h)]

theorem length_le_of_boundedArray {unread rest : Bytes} {items : List α}
    (h : Reader.boundedArray maximum item unread = .ok items rest) : items.length ≤ maximum := by
  simp only [Reader.boundedArray, Bind.bind, EStateM.bind] at h
  cases hword : Reader.word unread with
  | error e left =>
    rw [hword] at h
    cases h
  | ok count left =>
    rw [hword] at h
    dsimp only at h
    cases htaken : (Supply.counted count.toNat item).atMost maximum (left, count.toNat) with
    | error e final =>
      rw [htaken] at h
      cases h
    | ok taken final =>
      rw [htaken] at h
      cases h
      exact Supply.length_le_of_atMost htaken

end Wire

/-- On the wire, an array with a maximum fails for want of a count, fails for a count that is too
large before it takes an item, and is read as a plain array otherwise. From a supply that announces
nothing, all items are handed over if there are no more than the maximum, and the first one too many
ends it. In no case more items are handed over than the maximum says. -/
theorem plain_array_behind_one_check (maximum : Nat) (item : Reader α) :
    (∀ unread : Bytes, unread.length < 4 →
      Reader.boundedArray maximum item unread = .error .endOfInput unread) ∧
    (∀ (count : UInt32) (rest : Bytes), maximum < count.toNat →
      Reader.boundedArray maximum item (Bytes.ofWord count ++ rest) =
        .error (.arrayTooLong count.toNat maximum) rest) ∧
    (∀ (count : UInt32) (rest : Bytes), count.toNat ≤ maximum →
      Reader.boundedArray maximum item (Bytes.ofWord count ++ rest) =
        Reader.array item (Bytes.ofWord count ++ rest)) ∧
    (∀ (unread rest : Bytes) (items : List α),
      Reader.boundedArray maximum item unread = .ok items rest → items.length ≤ maximum) ∧
    (∀ length : Nat, (Error.arrayTooLong length maximum).message =
      s!"invalid length {length}, expected an array of at most {maximum} elements") ∧
    ∀ (σ : Type) (s : Supply σ α) (state : σ),
      (s.announced = none → ∀ r, s.atMost maximum state = r ↔ s.Comes maximum state r) ∧
      ∀ (items : List α) (final : σ),
        s.atMost maximum state = .ok items final → items.length ≤ maximum := by
  refine ⟨fun _ => boundedArray_short, fun _ rest h => boundedArray_of_lt h rest,
    fun _ rest h => boundedArray_of_le h rest, fun _ _ _ => length_le_of_boundedArray,
    fun _ => rfl, ?_⟩
  intro σ s state
  refine ⟨fun hannounced r => ?_, fun _ _ => Supply.length_le_of_atMost⟩
  have hle : s.announced.getD 0 ≤ maximum := by
    rw [hannounced]
    exact Nat.zero_le maximum
  rw [Supply.atMost_of_le hle, Supply.drain_eq_iff]

/-- Numbers of which there may be two. -/
theorem plain_array_behind_one_check_pair :
    Reader.boundedArray 2 Reader.int32 [0, 0, 0] = .error .endOfInput [0, 0, 0] ∧
    Reader.boundedArray 2 Reader.int32 [0, 0, 0, 3, 7] = .error (.arrayTooLong 3 2) [7] ∧
    Reader.boundedArray 2 Reader.int32 [0, 0, 0, 2, 0, 0, 0, 4, 0, 9] =
      .error .endOfInput [0, 9] ∧
    Supply.ofList.atMost 2 [4, 9] = .ok [(4 : Int32), 9] [] ∧
    Supply.ofList.atMost 2 [(4 : Int32), 9, 5, 6] = .error (.arrayTooLong 3 2) [6] ∧
    [(4 : Int32), 9].length ≤ 2 := by
  obtain ⟨hshort, hbeyond, hplain, -, -, hsupply⟩ := plain_array_behind_one_check 2 Reader.int32
  obtain ⟨hnone, hle⟩ := hsupply (List Int32) Supply.ofList [4, 9]
  have hwhole : Supply.ofList.Comes 2 [4, 9] (.ok [(4 : Int32), 9] []) :=
    .whole (.item rfl (.item rfl (.nothing []))) rfl (Nat.le_refl 2)
  have htooLong : Supply.ofList.Comes 2 [(4 : Int32), 9, 5, 6] (.error (.arrayTooLong 3 2) [6]) :=
    .tooLong (.item rfl (.item rfl (.item rfl (.nothing [6])))) rfl
  have hpair := (hnone rfl _).mpr hwhole
  refine ⟨hshort [0, 0, 0] (by decide), hbeyond 3 [7] (by decide), ?_, hpair, ?_, hle _ _ hpair⟩
  · exact hplain 2 [0, 0, 0, 4, 0, 9] (by decide)
  · exact ((hsupply (List Int32) Supply.ofList [4, 9, 5, 6]).1 rfl _).mpr htooLong

end GuestInventory.Xdr
