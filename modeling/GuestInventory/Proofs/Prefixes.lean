import GuestInventory.Proofs.Reading
import GuestInventory.Xdr.Layout

/-!
Reading against longer and shorter inputs. What a reader comes to hangs on the bytes that it takes
and on nothing behind them: bytes that are added change neither a value nor a refusal, and of a
value that is cut off, the reader says that input is missing. Readers put together are local if
their parts are, so every layout is.
-/
namespace GuestInventory.Xdr

def RunsOut (r : Reader α) (unread : Bytes) : Prop := ∃ left, r unread = .error .endOfInput left

/-- A value is read off a lead, whatever follows it, and not off a part of the lead. A refusal is
settled by a lead as well, unless it is that input is missing. -/
structure Local (r : Reader α) : Prop where
  of_ok : ∀ unread a rest, r unread = .ok a rest →
    ∃ lead, unread = lead ++ rest ∧ Reads r lead a ∧ ∀ j < lead.length, RunsOut r (lead.take j)
  of_error : ∀ unread e rest, r unread = .error e rest → e ≠ .endOfInput →
    ∃ lead, unread = lead ++ rest ∧ ∀ more, r (lead ++ more) = .error e more

theorem RunsOut.bind {r : Reader α} {unread : Bytes} (h : RunsOut r unread)
    (f : α → Reader β) : RunsOut (r >>= f) unread := by
  obtain ⟨left, hleft⟩ := h
  refine ⟨left, ?_⟩
  simp only [Bind.bind, EStateM.bind, hleft]

/-- What comes after a lead that is there in full may still run out. -/
theorem RunsOut.later {r : Reader α} {f : α → Reader β} {lead short : Bytes} {a : α}
    (hr : Reads r lead a) (h : RunsOut (f a) short) : RunsOut (r >>= f) (lead ++ short) := by
  obtain ⟨left, hleft⟩ := h
  refine ⟨left, ?_⟩
  simp only [Bind.bind, EStateM.bind, hr short, hleft]

namespace Local

variable {r : Reader α}

theorem pure (a : α) : Local (Pure.pure a : Reader α) where
  of_ok unread b rest h := by
    cases h
    exact ⟨[], rfl, .pure a, by simp⟩
  of_error unread e rest h := by cases h

theorem throw (e : Error) : Local (MonadExcept.throw e : Reader α) where
  of_ok unread a rest h := by cases h
  of_error unread e' rest h _ := by
    cases h
    exact ⟨[], rfl, fun more => rfl⟩

/-- A cut goes either through what the first reader takes or through what the second does. -/
theorem bind {f : α → Reader β} (hr : Local r) (hf : ∀ a, Local (f a)) : Local (r >>= f) where
  of_ok unread b rest h := by
    obtain ⟨a, between, hra, hfa⟩ := bind_eq_ok.mp h
    obtain ⟨lead, rfl, hlead, hshort⟩ := hr.of_ok unread a between hra
    obtain ⟨next, rfl, hnext, hshort'⟩ := (hf a).of_ok between b rest hfa
    refine ⟨lead ++ next, (List.append_assoc ..).symm, hlead.bind hnext, ?_⟩
    intro j hj
    rw [List.length_append] at hj
    rw [List.take_append]
    by_cases hcut : j < lead.length
    · have hnone : j - lead.length = 0 := by omega
      rw [hnone, List.take_zero, List.append_nil]
      exact (hshort j hcut).bind f
    · have hall : lead.length ≤ j := Nat.le_of_not_lt hcut
      rw [List.take_of_length_le hall]
      exact .later hlead (hshort' _ (by omega))
  of_error unread e rest h he := by
    simp only [Bind.bind, EStateM.bind] at h ⊢
    cases hra : r unread with
    | error e' left =>
      rw [hra] at h
      cases h
      obtain ⟨lead, hunread, hlead⟩ := hr.of_error unread e rest hra he
      exact ⟨lead, hunread, fun more => by rw [hlead more]⟩
    | ok a between =>
      rw [hra] at h
      obtain ⟨lead, rfl, hlead, -⟩ := hr.of_ok unread a between hra
      obtain ⟨next, rfl, hnext⟩ := (hf a).of_error between e rest h he
      refine ⟨lead ++ next, (List.append_assoc ..).symm, ?_⟩
      intro more
      rw [List.append_assoc, hlead (next ++ more)]
      exact hnext more

theorem map (g : α → β) (hr : Local r) : Local (do return g (← r)) :=
  hr.bind fun a => pure (g a)

/-- What is refused is refused for what was read before. -/
theorem guarded (c : Prop) [Decidable c] (e : Error) (hr : Local r) :
    Local (do
      if c then MonadExcept.throw e
      r) := by
  by_cases hc : c
  · simp only [if_pos hc]
    exact throw e
  · simp only [if_neg hc]
    exact hr

/-- A reader that wants `n` bytes and takes any. -/
theorem of_width (n : Nat) (hshort : ∀ unread, unread.length < n → RunsOut r unread)
    (hlead : ∀ lead, lead.length = n → ∃ a, Reads r lead a) : Local r := by
  -- With `n` bytes or more, the first `n` are read and the rest is left.
  have hread (unread : Bytes) (h : n ≤ unread.length) :
      ∃ a, Reads r (unread.take n) a ∧ r unread = .ok a (unread.drop n) := by
    obtain ⟨a, ha⟩ := hlead (unread.take n) (List.length_take_of_le h)
    have hall := ha (unread.drop n)
    rw [List.take_append_drop] at hall
    exact ⟨a, ha, hall⟩
  constructor
  · intro unread a rest h
    by_cases hn : unread.length < n
    · obtain ⟨left, hleft⟩ := hshort unread hn
      rw [hleft] at h
      cases h
    obtain ⟨b, hb, hall⟩ := hread unread (Nat.le_of_not_lt hn)
    rw [hall] at h
    cases h
    refine ⟨unread.take n, (List.take_append_drop n unread).symm, hb, ?_⟩
    intro j hj
    apply hshort
    rw [List.length_take] at hj ⊢
    omega
  · intro unread e rest h he
    by_cases hn : unread.length < n
    · obtain ⟨left, hleft⟩ := hshort unread hn
      rw [hleft] at h
      cases h
      exact absurd rfl he
    obtain ⟨b, hb, hall⟩ := hread unread (Nat.le_of_not_lt hn)
    rw [hall] at h
    cases h

theorem word : Local Reader.word := by
  refine of_width 4 ?_ ?_
  · intro unread h
    exact ⟨unread, word_of_lt h⟩
  · intro lead h
    match lead, h with
    | [a, b, c, d], _ => exact ⟨Bytes.word a b c d, fun rest => rfl⟩

theorem long : Local Reader.long := by
  refine of_width 8 ?_ ?_
  · intro unread h
    refine ⟨unread, ?_⟩
    match unread, h with
    | [], _ | [_], _ | [_, _], _ | [_, _, _], _ | [_, _, _, _], _ | [_, _, _, _, _], _
    | [_, _, _, _, _, _], _ | [_, _, _, _, _, _, _], _ => rfl
  · intro lead h
    match lead, h with
    | [a, b, c, d, e, f, g, h], _ =>
      exact ⟨Bytes.long (Bytes.word a b c d) (Bytes.word e f g h), fun rest => rfl⟩

theorem raw (n : Nat) : Local (Reader.raw n) := by
  refine of_width n ?_ ?_
  · intro unread h
    have hlength : (unread.take n).length ≠ n := by
      rw [List.length_take]
      omega
    exact ⟨unread, if_neg hlength⟩
  · intro lead h
    rw [← h]
    exact ⟨lead, .raw lead⟩

theorem bool : Local Reader.bool := by
  refine word.bind fun w => ?_
  by_cases h0 : w = 0
  · simp only [if_pos h0]
    exact pure false
  by_cases h1 : w = 1
  · simp only [if_neg h0, if_pos h1]
    exact pure true
  · simp only [if_neg h0, if_neg h1]
    exact throw (.invalidBool w)

theorem char : Local Reader.char := by
  refine word.bind fun w => ?_
  by_cases h : w.isValidChar
  · simp only [dif_pos h]
    exact pure _
  · simp only [dif_neg h]
    exact throw (.invalidChar w)

theorem scalar (kind : Scalar.Kind) : Local (Reader.scalar kind) := by
  cases kind with
  | bool => exact bool.map _
  | char => exact char.map _
  | int32 => exact (word.map _).map _
  | int8 | int16 | uint8 | uint16 | uint32 | float => exact word.map _
  | int64 | uint64 | double => exact long.map _

/-- The length is checked before there is any talk of how much is there. -/
theorem blob : Local Reader.blob := by
  refine word.bind fun w => ?_
  refine guarded (stringMaximum < w.toNat) (.stringTooLong w.toNat) ?_
  exact (raw w.toNat).bind fun data => (raw _).map fun _ => data

theorem string : Local Reader.string := by
  refine blob.bind fun data => ?_
  cases String.fromUTF8? ⟨data.toArray⟩ with
  | some s => exact pure s
  | none => exact throw .invalidUtf8

theorem option (hr : Local r) : Local (Reader.option r) := by
  refine word.bind fun w => ?_
  by_cases h0 : w = 0
  · simp only [if_pos h0]
    exact pure none
  by_cases h1 : w = 1
  · simp only [if_neg h0, if_pos h1]
    exact hr.map some
  · simp only [if_neg h0, if_neg h1]
    exact throw (.invalidOptional w)

/-- By induction on the number of items to come. -/
theorem timesOnto (hr : Local r) (n : Nat) (before : List α) :
    Local (Reader.timesOnto r n before) := by
  induction n generalizing before with
  | zero => exact pure before.reverse
  | succ n ih => exact hr.bind fun a => ih (a :: before)

theorem array (hr : Local r) : Local (Reader.array r) :=
  word.bind fun w => hr.timesOnto w.toNat []

/-- A count that is too large is refused by its own word. -/
theorem boundedArray (maximum : Nat) (hr : Local r) : Local (Reader.boundedArray maximum r) := by
  rw [boundedArray_eq]
  refine word.bind fun w => ?_
  exact (hr.timesOnto w.toNat []).guarded (maximum < w.toNat) (.arrayTooLong w.toNat maximum)

end Local

namespace Layout

theorem local_fields (fields : List Layout) (h : ∀ field ∈ fields, Local field.read) :
    Local (readFields fields) := by
  induction fields with
  | nil => exact .pure []
  | cons field rest ih =>
    rw [List.forall_mem_cons] at h
    exact h.1.bind fun first => (ih h.2).map (first :: ·)

/-- By induction on the arms that are passed over. -/
theorem local_arm (arms : List Layout) (h : ∀ value ∈ arms, Local value.read) (i : Nat)
    (arm : UInt32) (count : Nat) : Local (readArm arms i arm count) := by
  induction arms generalizing i with
  | nil => exact .throw (.unknownArm arm count)
  | cons first rest ih =>
    rw [List.forall_mem_cons] at h
    cases i with
    | zero => exact h.1
    | succ i => exact ih h.2 i

mutual

/-- One case for each construct, from its parts. -/
theorem read_local : (layout : Layout) → Local layout.read
  | .scalar kind => (Local.scalar kind).map _
  | .string => Local.string.map _
  | .blob => Local.blob.map _
  | .void => .pure Datum.void
  | .sixteen => (Local.raw 16).map _
  | .option value => value.read_local.option.map _
  | .array item => item.read_local.array.map _
  | .boundedArray maximum item => (item.read_local.boundedArray maximum).map _
  | .record fields => (local_fields fields (readAll_local fields)).map _
  | .wrap value => value.read_local.map _
  | .union arms =>
    Local.word.bind fun arm =>
      (local_arm arms (readAll_local arms) arm.toNat arm arms.length).map _
  | .unsupported construct => .throw (.unsupported construct)

theorem readAll_local : (layouts : List Layout) → ∀ layout ∈ layouts, Local layout.read
  | [] => List.forall_mem_nil _
  | layout :: rest => List.forall_mem_cons.mpr ⟨layout.read_local, readAll_local rest⟩

end

/-- Bytes that are added behind are left over, by a value and by a refusal, unless input was
missing. What is read off `k` bytes is read off them whatever follows, and of fewer than these the
only thing to be said is that input is missing. -/
theorem read_hangs_on_taken (layout : Layout) (unread more : Bytes) :
    (∀ d rest, layout.read unread = .ok d rest →
      layout.read (unread ++ more) = .ok d (rest ++ more) ∧
      ∃ k, unread.length = k + rest.length ∧
        (∀ other, layout.read (unread.take k ++ other) = .ok d other) ∧
        ∀ j < k, RunsOut layout.read (unread.take j)) ∧
    ∀ e rest, layout.read unread = .error e rest → e ≠ .endOfInput →
      layout.read (unread ++ more) = .error e (rest ++ more) := by
  constructor
  · intro d rest h
    obtain ⟨lead, rfl, hlead, hshort⟩ := layout.read_local.of_ok unread d rest h
    have hmore := hlead (rest ++ more)
    rw [← List.append_assoc] at hmore
    refine ⟨hmore, lead.length, List.length_append, ?_, ?_⟩
    · rw [List.take_left]
      exact hlead
    · intro j hj
      rw [List.take_append_of_le_length (Nat.le_of_lt hj)]
      exact hshort j hj
  · intro e rest h he
    obtain ⟨lead, rfl, hlead⟩ := layout.read_local.of_error unread e rest h he
    rw [List.append_assoc]
    exact hlead (rest ++ more)

def sparse : Layout := .record [.option .blob, .boundedArray 1 (.scalar .int16)]

def sparseDatum : Datum :=
  .record [.present (.blob [97]), .array [.scalar (.int16 258)]]

def sparseLead : Bytes := [0, 0, 0, 1, 0, 0, 0, 1, 97, 0, 0, 0, 0, 0, 0, 1, 0, 0, 1, 2]

def crowdedLead : Bytes := [0, 0, 0, 0, 0, 0, 0, 3]

/-- Data that is there and a full list, and a list that is refused for its count. -/
theorem read_hangs_on_taken_sparse :
    sparse.read (sparseLead ++ [42]) = .ok sparseDatum [42] ∧
    sparse.read (sparseLead ++ [42] ++ [7, 7]) = .ok sparseDatum [42, 7, 7] ∧
    (∃ k, 21 = k + 1 ∧
      (∀ other, sparse.read ((sparseLead ++ [42]).take k ++ other) = .ok sparseDatum other) ∧
      ∀ j < k, RunsOut sparse.read ((sparseLead ++ [42]).take j)) ∧
    sparse.read crowdedLead = .error (.arrayTooLong 3 1) [] ∧
    sparse.read (crowdedLead ++ [7, 7]) = .error (.arrayTooLong 3 1) [7, 7] := by
  have hread : sparse.read (sparseLead ++ [42]) = .ok sparseDatum [42] := rfl
  have hrefused : sparse.read crowdedLead = .error (.arrayTooLong 3 1) [] := rfl
  obtain ⟨hmore, hcut⟩ :=
    (read_hangs_on_taken sparse (sparseLead ++ [42]) [7, 7]).1 sparseDatum [42] hread
  have hcrowded := (read_hangs_on_taken sparse crowdedLead [7, 7]).2 (.arrayTooLong 3 1) []
    hrefused Error.noConfusion
  exact ⟨hread, hmore, hcut, hrefused, hcrowded⟩

end Layout

end GuestInventory.Xdr
