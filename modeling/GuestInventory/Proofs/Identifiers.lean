import GuestInventory.Uuid
import GuestInventory.Proofs.JsonReading

/-!
The text of an identifier loses nothing. Where its dashes stand does not depend on the bytes, and
without them it is two lowercase digits for each byte. A text is told by where its dashes are and by
what else is in it; so the texts of this form are those of identifiers, one for each identifier,
whose bytes are read off it in order.
-/
namespace GuestInventory

namespace Hex

def IsDigit (c : Char) : Prop := '0' ≤ c ∧ c ≤ '9' ∨ 'a' ≤ c ∧ c ≤ 'f'

instance (c : Char) : Decidable (IsDigit c) := inferInstanceAs (Decidable (_ ∨ _))

/-- The bytes that pairs of digits stand for, whichever case the digits are in. -/
def bytes? : List Char → Option Bytes
  | [] => some []
  | [_] => none
  | high :: low :: rest => do
    let high ← Json.hexDigit? high
    let low ← Json.hexDigit? low
    return UInt8.ofNat (16 * high + low) :: (← bytes? rest)

theorem isDigit_digit {n : Nat} (h : n < 16) : IsDigit (digit n) := by
  have hall : ∀ i : Fin 16, IsDigit (digit i) := by decide
  exact hall ⟨n, h⟩

theorem exists_digit_eq {c : Char} (h : IsDigit c) : ∃ n, n < 16 ∧ digit n = c := by
  rcases h with ⟨hlow, hhigh⟩ | ⟨hlow, hhigh⟩
  · have hlow : 48 ≤ c.toNat := hlow
    have hhigh : c.toNat ≤ 57 := hhigh
    refine ⟨c.toNat - 48, by omega, ?_⟩
    rw [digit, if_pos (by omega), Nat.add_sub_cancel' hlow, Char.ofNat_toNat]
  · have hlow : 97 ≤ c.toNat := hlow
    have hhigh : c.toNat ≤ 102 := hhigh
    refine ⟨c.toNat - 87, by omega, ?_⟩
    rw [digit, if_neg (by omega), Nat.add_sub_cancel' (by omega), Char.ofNat_toNat]

theorem isDigit_of_mem_ofByte {b : UInt8} {c : Char} (h : c ∈ ofByte b) : IsDigit c := by
  have hb : b.toNat < 256 := b.toNat_lt
  simp only [ofByte, List.mem_cons, List.not_mem_nil, or_false] at h
  rcases h with rfl | rfl
  · apply isDigit_digit
    omega
  · apply isDigit_digit
    omega

/-- Any two digits are how some byte is written. -/
theorem exists_ofByte_eq {high low : Char} (hhigh : IsDigit high) (hlow : IsDigit low) :
    ∃ b, ofByte b = [high, low] := by
  obtain ⟨m, hm, rfl⟩ := exists_digit_eq hhigh
  obtain ⟨n, hn, rfl⟩ := exists_digit_eq hlow
  have hvalue : (UInt8.ofNat (16 * m + n)).toNat = 16 * m + n :=
    UInt8.toNat_ofNat_of_lt' (show 16 * m + n < 256 by omega)
  have hdiv : (16 * m + n) / 16 = m := by omega
  have hmod : (16 * m + n) % 16 = n := by omega
  refine ⟨UInt8.ofNat (16 * m + n), ?_⟩
  rw [ofByte, hvalue, hdiv, hmod]

/-- Two digits for each byte are read back as the bytes. -/
theorem bytes?_flatMap_ofByte (bytes : Bytes) : bytes? (bytes.flatMap ofByte) = some bytes := by
  induction bytes with
  | nil => rfl
  | cons b rest ih =>
    have hb : b.toNat < 256 := b.toNat_lt
    have hhigh := Json.hexDigit?_digit (show b.toNat / 16 < 16 by omega)
    have hlow := Json.hexDigit?_digit (show b.toNat % 16 < 16 by omega)
    have hbyte : UInt8.ofNat (16 * (b.toNat / 16) + b.toNat % 16) = b := by
      rw [Nat.div_add_mod, UInt8.ofNat_toNat]
    simp only [List.flatMap_cons, ofByte, List.cons_append, List.nil_append, bytes?, hhigh, hlow,
      ih, Option.bind_eq_bind, Option.bind_some, Option.pure_def, hbyte]

/-- Digits that come in pairs are how some bytes are written. -/
theorem exists_flatMap_ofByte_eq {cs : List Char} {n : Nat} (hlength : cs.length = 2 * n)
    (h : ∀ c ∈ cs, IsDigit c) : ∃ bytes : Bytes, bytes.length = n ∧ bytes.flatMap ofByte = cs := by
  induction n generalizing cs with
  | zero => exact ⟨[], rfl, (List.length_eq_zero_iff.mp hlength).symm⟩
  | succ n ih =>
    match cs, hlength with
    | high :: low :: rest, hlength =>
      simp only [List.length_cons] at hlength
      rw [List.forall_mem_cons, List.forall_mem_cons] at h
      obtain ⟨hhigh, hlow, hrest⟩ := h
      obtain ⟨b, hb⟩ := exists_ofByte_eq hhigh hlow
      obtain ⟨bytes, hbytes, htext⟩ := ih (by omega) hrest
      refine ⟨b :: bytes, by rw [List.length_cons, hbytes], ?_⟩
      rw [List.flatMap_cons, hb, htext, List.cons_append, List.singleton_append]

end Hex

namespace Uuid

def dashes (cs : List Char) : List Bool := cs.map (· == '-')

def undashed (cs : List Char) : List Char := cs.filter (· != '-')

/-- The form of an identifier's text: lowercase digits, and dashes at four fixed places. -/
structure Canonical (s : String) : Prop where
  length_eq : s.length = 36
  dash_iff (i : Nat) : s.toList[i]? = some '-' ↔ i = 8 ∨ i = 13 ∨ i = 18 ∨ i = 23
  digit : ∀ c ∈ s.toList, c ≠ '-' → Hex.IsDigit c

section Dashes

theorem dashes_append (cs ds : List Char) : dashes (cs ++ ds) = dashes cs ++ dashes ds :=
  List.map_append

theorem undashed_append (cs ds : List Char) : undashed (cs ++ ds) = undashed cs ++ undashed ds :=
  List.filter_append ..

theorem length_undashed (cs : List Char) : (undashed cs).length = (dashes cs).count false := by
  induction cs with
  | nil => rfl
  | cons c cs ih =>
    by_cases hc : c = '-'
    · simpa [undashed, dashes, hc] using ih
    · have hother : (c == '-') = false := beq_eq_false_iff_ne.mpr hc
      simpa [undashed, dashes, hc, hother] using ih

theorem getElem?_dashes (cs : List Char) (i : Nat) :
    (dashes cs)[i]? = some true ↔ cs[i]? = some '-' := by
  simp [dashes]

variable {cs ds : List Char}

theorem dashes_eq_iff : dashes cs = dashes ds ↔
    cs.length = ds.length ∧ ∀ i : Nat, cs[i]? = some '-' ↔ ds[i]? = some '-' := by
  constructor
  · intro h
    refine ⟨by simpa [dashes] using congrArg List.length h, fun i => ?_⟩
    rw [← getElem?_dashes, ← getElem?_dashes, h]
  · intro h
    obtain ⟨hlength, hsame⟩ := h
    apply List.ext_getElem
    · simpa [dashes] using hlength
    · intro i hcs hds
      have hi : (dashes cs)[i]? = some true ↔ (dashes ds)[i]? = some true := by
        rw [getElem?_dashes, getElem?_dashes]
        exact hsame i
      rw [List.getElem?_eq_getElem hcs, List.getElem?_eq_getElem hds, Option.some.injEq,
        Option.some.injEq] at hi
      exact Bool.eq_iff_iff.mpr hi

/-- A text is told by where its dashes are and by what else is in it. -/
theorem eq_of_dashes_of_undashed (hdashes : dashes cs = dashes ds)
    (hothers : undashed cs = undashed ds) : cs = ds := by
  induction cs generalizing ds with
  | nil => exact (List.map_eq_nil_iff.mp hdashes.symm).symm
  | cons c cs ih =>
    cases ds with
    | nil => cases hdashes
    | cons d ds =>
      simp only [dashes, List.map_cons, List.cons.injEq] at hdashes
      obtain ⟨hhead, hdashes⟩ := hdashes
      -- Either both texts begin with a dash, or both begin with what comes first without dashes.
      by_cases hc : c = '-'
      · have hd : d = '-' := by simpa [hc] using hhead
        subst hc hd
        rw [ih hdashes (by simpa [undashed] using hothers)]
      · have hd : d ≠ '-' := by
          rw [beq_eq_false_iff_ne.mpr hc] at hhead
          exact beq_eq_false_iff_ne.mp hhead.symm
        simp only [undashed, List.filter_cons, bne_iff_ne.mpr hc, bne_iff_ne.mpr hd, if_true,
          List.cons.injEq] at hothers
        obtain ⟨rfl, hothers⟩ := hothers
        rw [ih hdashes hothers]

end Dashes

section Digits

theorem ne_dash_of_mem_ofByte {b : UInt8} {c : Char} (h : c ∈ Hex.ofByte b) : c ≠ '-' := by
  have hdigit := Hex.isDigit_of_mem_ofByte h
  have hdash : ¬ Hex.IsDigit '-' := by decide
  exact fun hc => hdash (hc ▸ hdigit)

theorem undashed_ofByte (b : UInt8) : undashed (Hex.ofByte b) = Hex.ofByte b :=
  List.filter_eq_self.mpr fun _ hc => bne_iff_ne.mpr (ne_dash_of_mem_ofByte hc)

theorem dashes_ofByte (b : UInt8) : dashes (Hex.ofByte b) = [false, false] :=
  List.map_eq_replicate_iff.mpr fun _ hc => beq_eq_false_iff_ne.mpr (ne_dash_of_mem_ofByte hc)

def separator (i : Nat) : List Char := if i = 4 ∨ i = 6 ∨ i = 8 ∨ i = 10 then ['-'] else []

theorem eq_dash_of_mem_separator {i : Nat} {c : Char} (h : c ∈ separator i) : c = '-' := by
  unfold separator at h
  split at h
  · exact List.mem_singleton.mp h
  · exact absurd h List.not_mem_nil

theorem undashed_separator (i : Nat) : undashed (separator i) = [] := by
  apply List.filter_eq_nil_iff.mpr
  intro c hc
  simp [eq_dash_of_mem_separator hc]

theorem digitsFrom_cons (i : Nat) (b : UInt8) (rest : Bytes) :
    digitsFrom i (b :: rest) = separator i ++ Hex.ofByte b ++ digitsFrom (i + 1) rest := by
  rw [digitsFrom, separator]
  split
  · rfl
  · rfl

theorem digit_of_mem_digitsFrom {i : Nat} {bytes : Bytes} {c : Char}
    (h : c ∈ digitsFrom i bytes) (hc : c ≠ '-') : Hex.IsDigit c := by
  induction bytes generalizing i with
  | nil => exact absurd h List.not_mem_nil
  | cons b rest ih =>
    rw [digitsFrom_cons, List.mem_append, List.mem_append] at h
    rcases h with (h | h) | h
    · exact absurd (eq_dash_of_mem_separator h) hc
    · exact Hex.isDigit_of_mem_ofByte h
    · exact ih h

/-- Without its dashes the text is two digits for each byte, in order. -/
theorem undashed_digitsFrom (i : Nat) (bytes : Bytes) :
    undashed (digitsFrom i bytes) = bytes.flatMap Hex.ofByte := by
  induction bytes generalizing i with
  | nil => rfl
  | cons b rest ih =>
    rw [digitsFrom_cons, undashed_append, undashed_append, undashed_separator, undashed_ofByte, ih,
      List.nil_append, List.flatMap_cons]

/-- Where the dashes stand does not depend on what the bytes are. -/
theorem dashes_digitsFrom (i : Nat) {bytes others : Bytes} (h : bytes.length = others.length) :
    dashes (digitsFrom i bytes) = dashes (digitsFrom i others) := by
  induction bytes generalizing i others with
  | nil => rw [List.length_eq_zero_iff.mp h.symm]
  | cons b rest ih =>
    cases others with
    | nil => cases h
    | cons other others =>
      rw [digitsFrom_cons, digitsFrom_cons, dashes_append, dashes_append, dashes_append,
        dashes_append, dashes_ofByte, dashes_ofByte, ih (i + 1) (Nat.succ.inj h)]

end Digits

section Text

theorem eq_of_bytes_eq {u v : Uuid} (h : u.bytes = v.bytes) : u = v := by
  cases u
  cases v
  cases h
  rfl

theorem toList_text (u : Uuid) : u.text.toList = digitsFrom 0 u.bytes := String.toList_ofList

theorem dashes_text (u v : Uuid) : dashes u.text.toList = dashes v.text.toList := by
  rw [toList_text, toList_text]
  exact dashes_digitsFrom 0 (u.length_bytes.trans v.length_bytes.symm)

theorem undashed_text (u : Uuid) : undashed u.text.toList = u.bytes.flatMap Hex.ofByte := by
  rw [toList_text, undashed_digitsFrom]

theorem digit_of_mem_text (u : Uuid) : ∀ c ∈ u.text.toList, c ≠ '-' → Hex.IsDigit c := by
  rw [toList_text]
  exact fun c hc hne => digit_of_mem_digitsFrom hc hne

/-- Without its dashes, the text of an identifier is read as the bytes of the identifier. -/
theorem bytes?_undashed_text (u : Uuid) : Hex.bytes? (undashed u.text.toList) = some u.bytes := by
  rw [undashed_text, Hex.bytes?_flatMap_ofByte]

theorem canonical_zero : Canonical zero.text where
  length_eq := by decide
  dash_iff i := by
    have hlength : zero.text.toList.length = 36 := by decide
    have hall : ∀ i : Fin 36, zero.text.toList[i.val]? = some '-' ↔
        i.val = 8 ∨ i.val = 13 ∨ i.val = 18 ∨ i.val = 23 := by decide
    by_cases hi : i < 36
    · exact hall ⟨i, hi⟩
    · rw [List.getElem?_eq_none (by omega)]
      constructor
      · intro h
        cases h
      · omega
  digit := digit_of_mem_text zero

/-- A text of this form has its dashes where the text of sixteen zeros has them. -/
theorem canonical_iff (s : String) : Canonical s ↔
    dashes s.toList = dashes zero.text.toList ∧ ∀ c ∈ s.toList, c ≠ '-' → Hex.IsDigit c := by
  rw [dashes_eq_iff]
  constructor
  · intro h
    refine ⟨⟨?_, fun i => ?_⟩, h.digit⟩
    · rw [String.length_toList, String.length_toList, h.length_eq, canonical_zero.length_eq]
    · rw [h.dash_iff, canonical_zero.dash_iff]
  · intro h
    obtain ⟨⟨hlength, hdash⟩, hdigit⟩ := h
    refine ⟨?_, fun i => ?_, hdigit⟩
    · rw [← String.length_toList, hlength, String.length_toList, canonical_zero.length_eq]
    · rw [hdash, canonical_zero.dash_iff]

/-- Every identifier is printed in the canonical form. -/
theorem canonical_text (u : Uuid) : Canonical u.text :=
  (canonical_iff _).mpr ⟨dashes_text u zero, digit_of_mem_text u⟩

/-- Every text of this form is that of an identifier: without dashes it is thirty-two digits, so
sixteen bytes are written like that, and their dashes stand at the same places. -/
theorem exists_text_eq {s : String} (h : Canonical s) : ∃ u : Uuid, u.text = s := by
  obtain ⟨hdashes, hdigit⟩ := (canonical_iff s).mp h
  have hlength : (undashed s.toList).length = 2 * 16 := by
    rw [length_undashed, hdashes]
    decide
  have hdigits : ∀ c ∈ undashed s.toList, Hex.IsDigit c := by
    intro c hc
    obtain ⟨hmem, hne⟩ := List.mem_filter.mp hc
    exact hdigit c hmem (bne_iff_ne.mp hne)
  obtain ⟨bytes, hbytes, htext⟩ := Hex.exists_flatMap_ofByte_eq hlength hdigits
  have hplaces := (dashes_text ⟨bytes, hbytes⟩ zero).trans hdashes.symm
  have hothers := (undashed_text ⟨bytes, hbytes⟩).trans htext
  exact ⟨⟨bytes, hbytes⟩, String.toList_inj.mp (eq_of_dashes_of_undashed hplaces hothers)⟩

/-- An identifier's text is thirty-six characters, lowercase digits and dashes at four places; the
digits without the dashes read back as the bytes in order; no other identifier has this text; and it
is the only text of this form that reads back as these bytes. -/
theorem text_canonical_lossless (u : Uuid) :
    Canonical u.text ∧
    Hex.bytes? (undashed u.text.toList) = some u.bytes ∧
    (∀ v : Uuid, u.text = v.text ↔ u = v) ∧
    ∀ s : String, u.text = s ↔ Canonical s ∧ Hex.bytes? (undashed s.toList) = some u.bytes := by
  have hread {v : Uuid} (h : Hex.bytes? (undashed v.text.toList) = some u.bytes) : u = v := by
    rw [bytes?_undashed_text v] at h
    exact eq_of_bytes_eq (Option.some.inj h).symm
  refine ⟨canonical_text u, bytes?_undashed_text u, fun v => ?_, fun s => ?_⟩
  · constructor
    · intro h
      apply hread
      rw [← h, bytes?_undashed_text]
    · exact congrArg text
  · constructor
    · intro h
      rw [← h]
      exact ⟨canonical_text u, bytes?_undashed_text u⟩
    · intro h
      obtain ⟨hcanonical, hbytes⟩ := h
      obtain ⟨v, rfl⟩ := exists_text_eq hcanonical
      rw [hread hbytes]

example : (Uuid.mk [0x12, 0x34, 0x56, 0x78, 0x9a, 0xbc, 0xde, 0xf0, 0x01, 0x23, 0x45, 0x67, 0x89,
    0xab, 0xcd, 0xef] rfl).text = "12345678-9abc-def0-0123-456789abcdef" := rfl

end Text

end Uuid

end GuestInventory
