import GuestInventory.Proofs.Reading

/-!
Which bytes a reader takes. A reader takes a form if it reads a value off exactly the leads that
have the form of that value. Readers put together take their forms put together; words, byte
strings, options and arrays have a form each. Padding is the only part of a form that is open.
-/
namespace GuestInventory

theorem Bytes.ofLong_long (high low : UInt32) :
    ofLong (long high low) = ofWord high ++ ofWord low := by
  have hhigh : high.toNat < 4294967296 := UInt32.toNat_lt high
  have hlow : low.toNat < 4294967296 := UInt32.toNat_lt low
  have hlong : (long high low).toNat = high.toNat * 4294967296 + low.toNat := by
    simp only [long, UInt64.toNat_ofNat']
    omega
  have hupper : UInt32.ofNat ((long high low).toNat / 4294967296) = high := by
    apply UInt32.toNat_inj.mp
    simp only [hlong, UInt32.toNat_ofNat']
    omega
  have hlower : UInt32.ofNat (long high low).toNat = low := by
    apply UInt32.toNat_inj.mp
    simp only [hlong, UInt32.toNat_ofNat']
    omega
  rw [ofLong, hupper, hlower]

theorem Bytes.toNat_eq_iff (w : UInt32) (n : Nat) :
    w.toNat = n ↔ n < 4294967296 ∧ w = UInt32.ofNat n := by
  have hw : w.toNat < 4294967296 := UInt32.toNat_lt w
  constructor
  · rintro rfl
    exact ⟨hw, UInt32.ofNat_toNat.symm⟩
  · rintro ⟨hn, rfl⟩
    exact UInt32.toNat_ofNat_of_lt' hn

namespace Xdr

/-- `r` reads `a` off the leads that have the form of `a`, and reads nothing else. -/
def Takes (r : Reader α) (form : α → Bytes → Prop) : Prop :=
  ∀ b a rest, r b = .ok a rest ↔ ∃ lead, b = lead ++ rest ∧ form a lead

inductive Each (form : α → Bytes → Prop) : List α → Bytes → Prop
  | nil : Each form [] []
  | cons {a : α} {items : List α} {x y : Bytes} (ha : form a x) (hitems : Each form items y) :
      Each form (a :: items) (x ++ y)

theorem each_nil_iff {form : α → Bytes → Prop} {lead : Bytes} :
    Each form [] lead ↔ lead = [] := by
  constructor
  · intro h
    cases h
    rfl
  · rintro rfl
    exact .nil

theorem each_cons_iff {form : α → Bytes → Prop} {a : α} {items : List α} {lead : Bytes} :
    Each form (a :: items) lead ↔ ∃ x y, lead = x ++ y ∧ form a x ∧ Each form items y := by
  constructor
  · intro h
    cases h with
    | cons ha hitems => exact ⟨_, _, rfl, ha, hitems⟩
  · rintro ⟨x, y, rfl, ha, hitems⟩
    exact .cons ha hitems

/-- If every value has one form, a list of them has one. -/
theorem each_eq_iff {lead : α → Bytes} {items : List α} {data : Bytes} :
    Each (fun a x => x = lead a) items data ↔ data = items.flatMap lead := by
  induction items generalizing data with
  | nil => exact each_nil_iff
  | cons a items ih =>
    rw [each_cons_iff, List.flatMap_cons]
    constructor
    · rintro ⟨x, y, rfl, rfl, hitems⟩
      rw [ih.mp hitems]
    · rintro rfl
      exact ⟨lead a, items.flatMap lead, rfl, rfl, ih.mpr rfl⟩

namespace Takes

variable {r : Reader α} {form form' : α → Bytes → Prop}

theorem reads (h : Takes r form) {a : α} {lead : Bytes} (ha : form a lead) : Reads r lead a :=
  fun rest => (h _ a rest).mpr ⟨lead, rfl, ha⟩

theorem congr (h : Takes r form) (hform : ∀ a lead, form a lead ↔ form' a lead) :
    Takes r form' := by
  intro b a rest
  rw [h b a rest]
  simp only [hform]

theorem pure (a : α) : Takes (Pure.pure a) fun x lead => x = a ∧ lead = [] := by
  intro b x rest
  constructor
  · intro h
    cases h
    exact ⟨[], rfl, rfl, rfl⟩
  · rintro ⟨lead, rfl, rfl, rfl⟩
    rfl

theorem throw (e : Error) : Takes (MonadExcept.throw e : Reader α) fun _ _ => False := by
  intro b a rest
  refine iff_of_false ?_ fun ⟨_, _, h⟩ => h
  intro h
  cases h

theorem bind {f : α → Reader β} {next : α → β → Bytes → Prop} (hr : Takes r form)
    (hf : ∀ a, Takes (f a) (next a)) :
    Takes (r >>= f) fun b lead => ∃ a x y, lead = x ++ y ∧ form a x ∧ next a b y := by
  intro unread b rest
  rw [bind_eq_ok]
  constructor
  · rintro ⟨a, between, hra, hfa⟩
    obtain ⟨x, rfl, hx⟩ := (hr _ a between).mp hra
    obtain ⟨y, rfl, hy⟩ := (hf a _ b rest).mp hfa
    exact ⟨x ++ y, by rw [List.append_assoc], a, x, y, rfl, hx, hy⟩
  · rintro ⟨lead, rfl, a, x, y, rfl, hx, hy⟩
    rw [List.append_assoc]
    exact ⟨a, y ++ rest, hr.reads hx _, (hf a).reads hy rest⟩

/-- A last step that only computes takes nothing more. -/
theorem map (g : α → β) (hr : Takes r form) :
    Takes (do return g (← r)) fun b lead => ∃ a, form a lead ∧ b = g a := by
  refine (hr.bind fun a => pure (g a)).congr ?_
  intro b lead
  constructor
  · rintro ⟨a, x, y, rfl, hx, rfl, rfl⟩
    exact ⟨a, by rwa [List.append_nil], rfl⟩
  · rintro ⟨a, ha, rfl⟩
    exact ⟨a, lead, [], (List.append_nil lead).symm, ha, rfl, rfl⟩

/-- A value that is reached in one way only. -/
theorem map_eq (g : α → β) (f : β → α) (hgf : ∀ a b, b = g a ↔ a = f b) (hr : Takes r form) :
    Takes (do return g (← r)) fun b lead => form (f b) lead := by
  refine (hr.map g).congr ?_
  intro b lead
  simp only [hgf]
  exact ⟨fun ⟨a, ha, hab⟩ => hab ▸ ha, fun h => ⟨f b, h, rfl⟩⟩

/-- What is refused has no form. -/
theorem guarded (c : Prop) [Decidable c] (e : Error) (hr : Takes r form) :
    Takes (do
      if c then MonadExcept.throw e
      r) fun a lead => ¬ c ∧ form a lead := by
  by_cases hc : c
  · simp only [if_pos hc]
    refine (throw e).congr ?_
    intro a lead
    exact iff_of_false id fun h => h.1 hc
  · simp only [if_neg hc]
    exact congr hr fun a lead => ⟨fun h => ⟨hc, h⟩, fun h => h.2⟩

theorem word : Takes Reader.word fun w lead => lead = Bytes.ofWord w := by
  intro b w rest
  constructor
  · intro h
    exact ⟨_, eq_of_word_ok h, rfl⟩
  · rintro ⟨lead, rfl, rfl⟩
    exact Reads.word w rest

theorem long : Takes Reader.long fun l lead => lead = Bytes.ofLong l := by
  intro b l rest
  constructor
  · intro h
    unfold Reader.long at h
    split at h
    · rename_i x1 x2 x3 x4 x5 x6 x7 x8 tail
      cases h
      refine ⟨_, ?_, rfl⟩
      rw [Bytes.ofLong_long, Bytes.ofWord_word, Bytes.ofWord_word]
      rfl
    · cases h
  · rintro ⟨lead, rfl, rfl⟩
    exact Reads.long l rest

theorem raw (n : Nat) : Takes (Reader.raw n) fun data lead => data.length = n ∧ lead = data := by
  intro b data rest
  constructor
  · intro h
    simp only [Reader.raw] at h
    split at h
    · rename_i hlength
      cases h
      exact ⟨_, (List.take_append_drop n b).symm, hlength, rfl⟩
    · cases h
  · rintro ⟨lead, rfl, rfl, rfl⟩
    exact Reads.raw _ rest

/-- A discriminant says which of two forms follows it. -/
theorem choose {zero one : Reader α} {e : UInt32 → Error} {formZero formOne : α → Bytes → Prop}
    (hzero : Takes zero formZero) (hone : Takes one formOne) :
    Takes (do
      let w ← Reader.word
      if w = 0 then zero else if w = 1 then one else MonadExcept.throw (e w))
      fun a lead => (∃ y, lead = Bytes.ofWord 0 ++ y ∧ formZero a y) ∨
        ∃ y, lead = Bytes.ofWord 1 ++ y ∧ formOne a y := by
  have hnext (w : UInt32) : Takes
      (if w = 0 then zero else if w = 1 then one else MonadExcept.throw (e w))
      fun a y => (w = 0 ∧ formZero a y) ∨ (w = 1 ∧ formOne a y) := by
    by_cases h0 : w = 0
    · subst h0
      exact hzero.congr fun a y => by simp
    by_cases h1 : w = 1
    · subst h1
      exact hone.congr fun a y => by simp
    simp only [if_neg h0, if_neg h1]
    exact (throw (e w)).congr fun a y => by simp [h0, h1]
  refine (word.bind hnext).congr ?_
  intro a lead
  constructor
  · rintro ⟨w, x, y, rfl, rfl, ⟨rfl, hy⟩ | ⟨rfl, hy⟩⟩
    · exact Or.inl ⟨y, rfl, hy⟩
    · exact Or.inr ⟨y, rfl, hy⟩
  · rintro (⟨y, rfl, hy⟩ | ⟨y, rfl, hy⟩)
    · exact ⟨0, _, y, rfl, rfl, Or.inl ⟨rfl, hy⟩⟩
    · exact ⟨1, _, y, rfl, rfl, Or.inr ⟨rfl, hy⟩⟩

/-- No other words than zero and one are read as truth values. -/
theorem bool : Takes Reader.bool fun b lead => lead = Bytes.ofWord (if b then 1 else 0) := by
  refine (choose (e := .invalidBool) (pure false) (pure true)).congr ?_
  intro b lead
  cases b <;> simp

theorem int32 : Takes Reader.int32 fun n lead => lead = Bytes.ofWord n.toUInt32 :=
  word.map_eq UInt32.toInt32 Int32.toUInt32 fun w n => by
    constructor
    · rintro rfl
      rfl
    · rintro rfl
      rfl

theorem char : Takes Reader.char fun c lead => lead = Bytes.ofWord c.val := by
  have hnext (w : UInt32) : Takes
      (if h : w.isValidChar then Pure.pure ⟨w, h⟩
        else MonadExcept.throw (.invalidChar w) : Reader Char)
      fun c y => c.val = w ∧ y = [] := by
    by_cases h : w.isValidChar
    · simp only [dif_pos h]
      refine (pure (⟨w, h⟩ : Char)).congr ?_
      intro c y
      exact and_congr_left fun _ => ⟨fun hc => by rw [hc], fun hc => Char.ext hc⟩
    · simp only [dif_neg h]
      refine (throw (.invalidChar w)).congr ?_
      intro c y
      refine iff_of_false id ?_
      rintro ⟨rfl, -⟩
      exact h c.valid
  refine (word.bind hnext).congr ?_
  intro c lead
  constructor
  · rintro ⟨w, x, y, rfl, rfl, rfl, rfl⟩
    rw [List.append_nil]
  · rintro rfl
    exact ⟨c.val, _, [], (List.append_nil _).symm, rfl, rfl, rfl⟩

/-- A byte string may be padded with anything. -/
theorem blob : Takes Reader.blob fun data lead => data.length ≤ stringMaximum ∧
    ∃ pad : Bytes, pad.length = (Bytes.padding data.length).length ∧
      lead = Bytes.ofWord (UInt32.ofNat data.length) ++ (data ++ pad) := by
  have hpad (n : Nat) (data : Bytes) := (raw (Bytes.padding n).length).map fun _ => data
  have hbody (n : Nat) := ((raw n).bind (hpad n)).guarded (stringMaximum < n) (.stringTooLong n)
  refine (word.bind fun w => hbody w.toNat).congr ?_
  intro data lead
  constructor
  · rintro ⟨w, _, _, rfl, rfl, hlimit, _, _, _, rfl, ⟨hlength, rfl⟩, _, ⟨hpadding, rfl⟩, rfl⟩
    rw [← hlength] at hlimit hpadding
    obtain ⟨-, rfl⟩ := (Bytes.toNat_eq_iff w data.length).mp hlength.symm
    exact ⟨Nat.le_of_not_lt hlimit, _, hpadding, rfl⟩
  · rintro ⟨hlimit, pad, hpadding, rfl⟩
    have hlength : (UInt32.ofNat data.length).toNat = data.length := by
      refine (Bytes.toNat_eq_iff _ _).mpr ⟨?_, rfl⟩
      unfold stringMaximum at hlimit
      omega
    refine ⟨_, _, _, rfl, rfl, ?_, data, data, pad, rfl, ⟨?_, rfl⟩, pad, ⟨?_, rfl⟩, rfl⟩
    · rw [hlength]
      exact Nat.not_lt.mpr hlimit
    · exact hlength.symm
    · rw [hlength]
      exact hpadding

theorem utf8_of_fromUTF8? {data : Bytes} {s : String}
    (h : String.fromUTF8? ⟨data.toArray⟩ = some s) : utf8 s = data := by
  unfold String.fromUTF8? at h
  split at h
  · cases h
    rfl
  · cases h

/-- The length says how many bytes are text, and the text has to be UTF-8. -/
theorem string : Takes Reader.string fun s lead => (utf8 s).length ≤ stringMaximum ∧
    ∃ pad : Bytes, pad.length = (Bytes.padding (utf8 s).length).length ∧
      lead = Bytes.ofWord (UInt32.ofNat (utf8 s).length) ++ (utf8 s ++ pad) := by
  let decoded (data : Bytes) (s : String) (y : Bytes) : Prop :=
    String.fromUTF8? ⟨data.toArray⟩ = some s ∧ y = []
  unfold Reader.string
  refine congr (@bind _ _ _ _ _ decoded blob fun data => ?_) ?_
  · simp only [decoded]
    cases String.fromUTF8? ⟨data.toArray⟩ with
    | some s => exact (pure s).congr fun t y => by rw [Option.some.injEq, eq_comm]
    | none => exact (throw .invalidUtf8).congr fun t y => by simp
  · intro s lead
    constructor
    · rintro ⟨data, x, y, rfl, hx, hs, rfl⟩
      obtain rfl := utf8_of_fromUTF8? hs
      rw [List.append_nil]
      exact hx
    · intro h
      exact ⟨utf8 s, lead, [], (List.append_nil lead).symm, h, Reads.fromUTF8?_utf8 s, rfl⟩

theorem uuid : Takes Reader.uuid fun u lead => lead = u.bytes := by
  intro b u rest
  constructor
  · intro h
    simp only [Reader.uuid] at h
    split at h
    · cases h
      exact ⟨_, (List.take_append_drop 16 b).symm, rfl⟩
    · cases h
  · rintro ⟨lead, rfl, rfl⟩
    exact Reads.uuid u rest

theorem option (hr : Takes r form) : Takes (Reader.option r) fun o lead =>
    (o = none ∧ lead = Bytes.ofWord 0) ∨
      ∃ a y, o = some a ∧ lead = Bytes.ofWord 1 ++ y ∧ form a y := by
  refine (choose (e := .invalidOptional) (pure none) (hr.map some)).congr ?_
  intro o lead
  constructor
  · rintro (⟨y, rfl, rfl, rfl⟩ | ⟨y, rfl, a, ha, rfl⟩)
    · exact Or.inl ⟨rfl, List.append_nil _⟩
    · exact Or.inr ⟨a, y, rfl, rfl, ha⟩
  · rintro (⟨rfl, rfl⟩ | ⟨a, y, rfl, rfl, ha⟩)
    · exact Or.inl ⟨[], (List.append_nil _).symm, rfl, rfl⟩
    · exact Or.inr ⟨y, rfl, a, ha, rfl⟩

/-- By induction on the number of items to come. -/
theorem timesOnto (hr : Takes r form) (n : Nat) (before : List α) :
    Takes (Reader.timesOnto r n before) fun items lead =>
      ∃ new, items = before.reverse ++ new ∧ new.length = n ∧ Each form new lead := by
  induction n generalizing before with
  | zero =>
    refine (pure before.reverse).congr ?_
    intro items lead
    constructor
    · rintro ⟨rfl, rfl⟩
      exact ⟨[], (List.append_nil _).symm, rfl, .nil⟩
    · rintro ⟨new, rfl, hnew, heach⟩
      obtain rfl := List.length_eq_zero_iff.mp hnew
      exact ⟨List.append_nil _, each_nil_iff.mp heach⟩
  | succ n ih =>
    refine (hr.bind fun a => ih (a :: before)).congr ?_
    intro items lead
    constructor
    · rintro ⟨a, x, y, rfl, ha, new, rfl, rfl, heach⟩
      exact ⟨a :: new, by simp, rfl, .cons ha heach⟩
    · rintro ⟨new, rfl, hnew, heach⟩
      obtain ⟨a, new, rfl⟩ := List.exists_cons_of_length_eq_add_one hnew
      obtain ⟨x, y, rfl, ha, heach⟩ := each_cons_iff.mp heach
      exact ⟨a, x, y, rfl, ha, new, by simp, Nat.succ.inj hnew, heach⟩

theorem times (hr : Takes r form) (n : Nat) :
    Takes (Reader.times n r) fun items lead => items.length = n ∧ Each form items lead := by
  refine (hr.timesOnto n []).congr ?_
  intro items lead
  simp

/-- What a count and its items are read from. -/
private theorem counted_iff {items : List α} {lead : Bytes} :
    (∃ (w : UInt32) (x y : Bytes), lead = x ++ y ∧ x = Bytes.ofWord w ∧
        items.length = w.toNat ∧ Each form items y) ↔
      items.length < 4294967296 ∧
        ∃ y, lead = Bytes.ofWord (UInt32.ofNat items.length) ++ y ∧ Each form items y := by
  constructor
  · rintro ⟨w, _, y, rfl, rfl, hlength, heach⟩
    obtain ⟨hlt, rfl⟩ := (Bytes.toNat_eq_iff w items.length).mp hlength.symm
    exact ⟨hlt, y, rfl, heach⟩
  · rintro ⟨hlt, y, rfl, heach⟩
    exact ⟨_, _, y, rfl, rfl, (UInt32.toNat_ofNat_of_lt' hlt).symm, heach⟩

theorem array (hr : Takes r form) : Takes (Reader.array r) fun items lead =>
    items.length < 4294967296 ∧
      ∃ y, lead = Bytes.ofWord (UInt32.ofNat items.length) ++ y ∧ Each form items y :=
  (word.bind fun w => hr.times w.toNat).congr fun _ _ => counted_iff

theorem boundedArray (maximum : Nat) (hr : Takes r form) :
    Takes (Reader.boundedArray maximum r) fun items lead =>
      items.length ≤ maximum ∧ items.length < 4294967296 ∧
        ∃ y, lead = Bytes.ofWord (UInt32.ofNat items.length) ++ y ∧ Each form items y := by
  rw [boundedArray_eq]
  have hnext (w : UInt32) := (hr.times w.toNat).guarded (maximum < w.toNat)
    (.arrayTooLong w.toNat maximum)
  refine (word.bind hnext).congr ?_
  intro items lead
  rw [← counted_iff]
  constructor
  · rintro ⟨w, x, y, hlead, hx, hlimit, hlength, heach⟩
    exact ⟨by omega, w, x, y, hlead, hx, hlength, heach⟩
  · rintro ⟨hlimit, w, x, y, hlead, hx, hlength, heach⟩
    exact ⟨w, x, y, hlead, hx, by omega, hlength, heach⟩

end Takes

end Xdr

end GuestInventory
