import GuestInventory.Proofs.RoundTrip

/-!
The limits that only readers know of. What is written holds texts and counted arrays, each of which
a reader puts a limit on and comes to in wire order. If all of them keep within their limits the
value is read back; otherwise reading fails, and for the first one that does not.
-/
namespace GuestInventory.Xdr

/-- What a reader puts a limit on: a text, and the count of an array with a maximum. -/
inductive Part
  | text (s : String)
  | count (length maximum : Nat)

namespace Part

def size : Part → Nat
  | text s => (utf8 s).length
  | count length _ => length

def limit : Part → Nat
  | text _ => 4194304
  | count _ maximum => maximum

def refusal : Part → Error
  | text s => .stringTooLong (utf8 s).length
  | count length maximum => .arrayTooLong length maximum

def Within (p : Part) : Prop := p.size ≤ p.limit

def Sized (p : Part) : Prop := p.size < 4294967296

instance (p : Part) : Decidable p.Within := inferInstanceAs (Decidable (_ ≤ _))

instance (p : Part) : Decidable p.Sized := inferInstanceAs (Decidable (_ < _))

end Part

def firstBeyond (parts : List Part) : Option Part := parts.find? fun p => ¬ p.Within

theorem firstBeyond_eq_none_iff {parts : List Part} :
    firstBeyond parts = none ↔ ∀ p ∈ parts, p.Within := by
  simp [firstBeyond]

theorem firstBeyond_append (parts more : List Part) :
    firstBeyond (parts ++ more) = (firstBeyond parts).or (firstBeyond more) :=
  List.find?_append

theorem firstBeyond_split {before after : List Part} {p : Part} (hbefore : ∀ q ∈ before, q.Within)
    (hp : ¬ p.Within) : firstBeyond (before ++ p :: after) = some p := by
  rw [firstBeyond_append, firstBeyond_eq_none_iff.mpr hbefore, Option.none_or]
  simp [firstBeyond, hp]

theorem exists_split {parts : List Part} {p : Part} (h : firstBeyond parts = some p) :
    ∃ before after, parts = before ++ p :: after ∧ (∀ q ∈ before, q.Within) ∧ ¬ p.Within := by
  obtain ⟨hp, before, after, hparts, hbefore⟩ := List.find?_eq_some_iff_append.mp h
  refine ⟨before, after, hparts, fun q hq => ?_, by simpa using hp⟩
  simpa using hbefore q hq

/-- `r` takes `lead` off the front of any bytes and gives `a` for it, if the parts in `lead` keep
within their limits. If one of them does not, and all of them could be written, `r` fails for the
first such. -/
structure ReadsWithin (r : Reader α) (lead : Bytes) (parts : List Part) (a : α) : Prop where
  within : (∀ p ∈ parts, p.Within) → Reads r lead a
  beyond : (∀ p ∈ parts, p.Sized) → ∀ p, firstBeyond parts = some p → ∀ rest, ∃ left,
    r (lead ++ rest) = .error p.refusal left

namespace ReadsWithin

variable {r : Reader α} {f : α → Reader β} {lead next : Bytes} {parts more : List Part} {a : α}
    {b : β}

theorem of_reads (h : Reads r lead a) : ReadsWithin r lead [] a where
  within _ := h
  beyond _ p hp := by cases hp

/-- Of two readers one after another, the second has no say in what the first refuses. -/
theorem bind (hr : ReadsWithin r lead parts a) (hf : ReadsWithin (f a) next more b) :
    ReadsWithin (r >>= f) (lead ++ next) (parts ++ more) b where
  within h := by
    obtain ⟨hparts, hmore⟩ := List.forall_mem_append.mp h
    exact (hr.within hparts).bind (hf.within hmore)
  beyond hsized p h rest := by
    obtain ⟨hparts, hmore⟩ := List.forall_mem_append.mp hsized
    rw [firstBeyond_append] at h
    rw [List.append_assoc]
    simp only [Bind.bind, EStateM.bind]
    cases hfirst : firstBeyond parts with
    | some q =>
      rw [hfirst, Option.some_or, Option.some.injEq] at h
      subst h
      obtain ⟨left, hleft⟩ := hr.beyond hparts q hfirst (next ++ rest)
      exact ⟨left, by rw [hleft]⟩
    | none =>
      -- All of `lead` is read then, so that what fails is a part of `next`.
      rw [hfirst, Option.none_or] at h
      rw [hr.within (firstBeyond_eq_none_iff.mp hfirst) (next ++ rest)]
      exact hf.beyond hmore p h rest

theorem bind_pure (hr : ReadsWithin r lead parts a) (hf : f a = Pure.pure b) :
    ReadsWithin (r >>= f) lead parts b := by
  have hnext : Reads (f a) [] b := by
    rw [hf]
    exact .pure b
  have h := hr.bind (of_reads hnext)
  rwa [List.append_nil, List.append_nil] at h

/-- The length word is checked before the text is looked for. -/
theorem string (s : String) :
    ReadsWithin Reader.string
      (Bytes.ofWord (UInt32.ofNat (utf8 s).length) ++ (utf8 s ++ Bytes.padding (utf8 s).length))
      [.text s] s where
  within h := Reads.string s (h (.text s) List.mem_cons_self)
  beyond hsized p h rest := by
    obtain rfl : p = .text s := List.mem_singleton.mp (List.mem_of_find?_eq_some h)
    have hp : ¬ (Part.text s).Within := by simpa using List.find?_some h
    have hlimit : stringMaximum < (utf8 s).length := Nat.lt_of_not_le hp
    have hlength : (UInt32.ofNat (utf8 s).length).toNat = (utf8 s).length :=
      UInt32.toNat_ofNat_of_lt' (hsized (.text s) List.mem_cons_self)
    refine ⟨utf8 s ++ Bytes.padding (utf8 s).length ++ rest, ?_⟩
    rw [List.append_assoc]
    simp only [Reader.string, Reader.blob, Bind.bind, EStateM.bind,
      Reads.word (UInt32.ofNat (utf8 s).length) _, hlength, if_pos hlimit]
    rfl

theorem option_some (hr : ReadsWithin r lead parts a) :
    ReadsWithin (Reader.option r) (Bytes.ofWord 1 ++ lead) parts (some a) := by
  have hword := of_reads (Reads.word 1)
  exact hword.bind (hr.bind_pure rfl)

section Array

variable (item : Reader β) (lead : α → Bytes) (parts : α → List Part) (value : α → β)
    (items : List α) (hitems : ∀ a ∈ items, ReadsWithin item (lead a) (parts a) (value a))
include hitems

/-- By induction on the items: the first that is not read ends the reading. -/
theorem timesOnto (before : List β) :
    ReadsWithin (Reader.timesOnto item items.length before) (items.flatMap lead)
      (items.flatMap parts) (before.reverse ++ items.map value) := by
  induction items generalizing before with
  | nil =>
    rw [List.map_nil, List.append_nil]
    exact of_reads (.pure before.reverse)
  | cons a rest ih =>
    have hrest : ∀ b ∈ rest, ReadsWithin item (lead b) (parts b) (value b) :=
      fun b hb => hitems b (List.mem_cons_of_mem a hb)
    have h := ih hrest (value a :: before)
    rw [List.reverse_cons, List.append_assoc] at h
    exact (hitems a List.mem_cons_self).bind h

theorem times :
    ReadsWithin (Reader.times items.length item) (items.flatMap lead) (items.flatMap parts)
      (items.map value) :=
  timesOnto item lead parts value items hitems []

/-- The count is a part of its own, and it is checked before any item is read. -/
theorem boundedArray (maximum : Nat) (hmaximum : maximum < 4294967296) :
    ReadsWithin (Reader.boundedArray maximum item)
      (Bytes.ofWord (UInt32.ofNat items.length) ++ items.flatMap lead)
      (.count items.length maximum :: items.flatMap parts) (items.map value) where
  within h := by
    obtain ⟨hcount, hparts⟩ := List.forall_mem_cons.mp h
    have hle : items.length ≤ maximum := hcount
    -- A count within its maximum is one that the length word can say.
    have hlength : (UInt32.ofNat items.length).toNat = items.length :=
      UInt32.toNat_ofNat_of_lt' (Nat.lt_of_le_of_lt hle hmaximum)
    rw [boundedArray_eq]
    refine (Reads.word _).bind ?_
    simp only [hlength, if_neg (Nat.not_lt.mpr hle)]
    exact (times item lead parts value items hitems).within hparts
  beyond hsized p h rest := by
    obtain ⟨hcount, hparts⟩ := List.forall_mem_cons.mp hsized
    have hlength : (UInt32.ofNat items.length).toNat = items.length :=
      UInt32.toNat_ofNat_of_lt' hcount
    rw [boundedArray_eq, List.append_assoc]
    simp only [Bind.bind, EStateM.bind, Reads.word (UInt32.ofNat items.length) _, hlength]
    by_cases hlimit : maximum < items.length
    · have hfirst : firstBeyond (.count items.length maximum :: items.flatMap parts) =
          some (.count items.length maximum) :=
        firstBeyond_split (List.forall_mem_nil _) (Nat.not_le_of_lt hlimit)
      rw [hfirst, Option.some.injEq] at h
      subst h
      exact ⟨_, by rw [if_pos hlimit]; rfl⟩
    · have hwithin : (Part.count items.length maximum).Within := Nat.le_of_not_lt hlimit
      have hcounted : firstBeyond [.count items.length maximum] = none :=
        firstBeyond_eq_none_iff.mpr (List.forall_mem_singleton.mpr hwithin)
      rw [← List.singleton_append, firstBeyond_append, hcounted, Option.none_or] at h
      rw [if_neg hlimit]
      exact (times item lead parts value items hitems).beyond hparts p h rest

end Array

end ReadsWithin

/-- `d` is written without a fault and with its texts in full, and `r` reads what was written as
`a`, as far as its parts keep within their limits. -/
structure ConveysWithin (d : Datum) (r : Reader α) (parts : List Part) (a : α) : Prop where
  plain : d.Plain
  reads : ReadsWithin r d.wire parts a
  text_le : ∀ s, Part.text s ∈ parts → (utf8 s).length ≤ d.wire.length

structure ConveysAllWithin (ds : List Datum) (r : Reader α) (parts : List Part) (a : α) : Prop where
  plain : ∀ d ∈ ds, d.Plain
  reads : ReadsWithin r (ds.flatMap Datum.wire) parts a
  text_le : ∀ s, Part.text s ∈ parts → (utf8 s).length ≤ (ds.flatMap Datum.wire).length

namespace ConveysWithin

variable {r : Reader α} {d : Datum} {parts : List Part} {a : α}

/-- Where nothing has a limit, reading cannot fail. -/
theorem of_conveys (h : Conveys d r a) : ConveysWithin d r [] a where
  plain := h.plain
  reads := .of_reads h.reads
  text_le _ hs := absurd hs List.not_mem_nil

theorem conveys (h : ConveysWithin d r parts a) (hwithin : ∀ p ∈ parts, p.Within) :
    Conveys d r a :=
  ⟨h.plain, h.reads.within hwithin⟩

/-- If all that is written keeps within the limit on a string, every string does, and only the
counts are left to check. -/
theorem conveys_of_length (h : ConveysWithin d r parts a) (hsize : d.wire.length ≤ stringMaximum)
    (hcounts : ∀ length maximum, Part.count length maximum ∈ parts → length ≤ maximum) :
    Conveys d r a := by
  refine h.conveys ?_
  intro p hp
  cases p with
  | text s => exact Nat.le_trans (h.text_le s hp) hsize
  | count length maximum => exact hcounts length maximum hp

theorem bind_pure {g : α → Reader β} {b : β} (h : ConveysWithin d r parts a) (hg : g a = pure b) :
    ConveysWithin d (r >>= g) parts b where
  plain := h.plain
  reads := h.reads.bind_pure hg
  text_le := h.text_le

theorem string (s : String) : ConveysWithin (.string s) Reader.string [.text s] s where
  plain := Datum.plain_string s
  reads := ReadsWithin.string s
  text_le t ht := by
    obtain rfl : t = s := by simpa using ht
    exact Datum.length_le_wire_string t

theorem some (h : ConveysWithin d r parts a) :
    ConveysWithin (.present d) (Reader.option r) parts (some a) where
  plain := Datum.plain_of_write (Datum.write_present h.plain)
  reads := by
    rw [Datum.wire_of_write (Datum.write_present h.plain)]
    exact h.reads.option_some
  text_le s hs := Nat.le_trans (h.text_le s hs) (Datum.length_wire_le_present h.plain)

/-- An optional string is a part if it is there. -/
theorem optional (s : Option String) :
    ConveysWithin (.option .string s) (Reader.option Reader.string) (s.toList.map .text) s := by
  cases s with
  | none => exact of_conveys (Conveys.none _)
  | some s => exact (string s).some

theorem boundedArray (item : Reader β) (datum : α → Datum) (parts : α → List Part) (value : α → β)
    (items : List α) (maximum : Nat) (hmaximum : maximum < 4294967296)
    (hitems : ∀ a ∈ items, ConveysWithin (datum a) item (parts a) (value a)) :
    ConveysWithin (.list datum items) (Reader.boundedArray maximum item)
      (.count items.length maximum :: items.flatMap parts) (items.map value) where
  plain := Datum.plain_list datum items fun a ha => (hitems a ha).plain
  reads := by
    rw [Datum.wire_list datum items fun a ha => (hitems a ha).plain]
    exact ReadsWithin.boundedArray item _ parts value items (fun a ha => (hitems a ha).reads)
      maximum hmaximum
  text_le s hs := by
    have hparts := (List.mem_cons.mp hs).resolve_left Part.noConfusion
    obtain ⟨a, ha, hs⟩ := List.mem_flatMap.mp hparts
    have hitem := Datum.length_wire_le_list (fun a ha => (hitems a ha).plain) ha
    exact Nat.le_trans ((hitems a ha).text_le s hs) hitem

/-- Items without parts leave only their count. -/
theorem boundedArray_of_conveys (item : Reader β) (datum : α → Datum) (value : α → β)
    (items : List α) (maximum : Nat) (hmaximum : maximum < 4294967296)
    (hitems : ∀ a ∈ items, Conveys (datum a) item (value a)) :
    ConveysWithin (.list datum items) (Reader.boundedArray maximum item)
      [.count items.length maximum] (items.map value) := by
  have hlist := boundedArray item datum (fun _ => []) value items maximum hmaximum
    fun a ha => of_conveys (hitems a ha)
  rwa [List.flatMap_eq_nil_iff.mpr fun _ _ => rfl] at hlist

theorem followed {g : α → Reader β} {ds : List Datum} {more : List Part} {b : β}
    (h : ConveysWithin d r parts a) (hrest : ConveysAllWithin ds (g a) more b) :
    ConveysAllWithin (d :: ds) (r >>= g) (parts ++ more) b where
  plain := List.forall_mem_cons.mpr ⟨h.plain, hrest.plain⟩
  reads := h.reads.bind hrest.reads
  text_le s hs := by
    rw [List.flatMap_cons, List.length_append]
    rcases List.mem_append.mp hs with hs | hs
    · exact Nat.le_add_right_of_le (h.text_le s hs)
    · exact Nat.le_add_left_of_le (hrest.text_le s hs)

theorem last {g : α → Reader β} {b : β} (h : ConveysWithin d r parts a) (hg : g a = pure b) :
    ConveysAllWithin [d] (r >>= g) parts b where
  plain := List.forall_mem_singleton.mpr h.plain
  reads := by
    rw [List.flatMap_singleton]
    exact h.reads.bind_pure hg
  text_le := by
    rw [List.flatMap_singleton]
    exact h.text_le

theorem record {ds : List Datum} (h : ConveysAllWithin ds r parts a) :
    ConveysWithin (.record ds) r parts a where
  plain := Datum.plain_record ds h.plain
  reads := by
    rw [Datum.wire_record ds h.plain]
    exact h.reads
  text_le := by
    rw [Datum.wire_record ds h.plain]
    exact h.text_le

end ConveysWithin

end GuestInventory.Xdr
