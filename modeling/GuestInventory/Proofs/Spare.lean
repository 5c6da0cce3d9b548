import GuestInventory.Proofs.RoundTrip
import GuestInventory.Proofs.Taking

/-!
The places of a written datum that say nothing: the padding of byte strings and the high bytes of
short integers. Bytes that agree everywhere else come in parts as the datum does, and a scalar is
read off exactly the bytes that agree with what is written for it.
-/
namespace GuestInventory.Xdr

structure AgreeOff (spare : List Bool) (x y : Bytes) : Prop where
  length_left : x.length = spare.length
  length_right : y.length = spare.length
  eq_of_kept : ∀ i : Nat, spare[i]? = some false → x[i]? = y[i]?

namespace AgreeOff

variable {spare spare' : List Bool} {x y z : Bytes}

theorem refl (h : x.length = spare.length) : AgreeOff spare x x := ⟨h, h, fun _ _ => rfl⟩

theorem trans (hxy : AgreeOff spare x y) (hyz : AgreeOff spare y z) : AgreeOff spare x z :=
  ⟨hxy.length_left, hyz.length_right,
    fun i hi => (hxy.eq_of_kept i hi).trans (hyz.eq_of_kept i hi)⟩

/-- Where nothing is spare there is only one way. -/
theorem kept_iff {n : Nat} (hy : y.length = n) :
    AgreeOff (List.replicate n false) x y ↔ x = y := by
  constructor
  · intro h
    apply List.ext_getElem? fun i => ?_
    by_cases hi : i < n
    · exact h.eq_of_kept i (by simp [hi])
    · have hx := h.length_left
      rw [List.length_replicate] at hx
      rw [List.getElem?_eq_none (by omega), List.getElem?_eq_none (by omega)]
  · rintro rfl
    exact refl (by rw [hy, List.length_replicate])

theorem spare_iff {n : Nat} (hy : y.length = n) :
    AgreeOff (List.replicate n true) x y ↔ x.length = n := by
  constructor
  · intro h
    rw [h.length_left, List.length_replicate]
  · intro hx
    refine ⟨by rw [hx, List.length_replicate], by rw [hy, List.length_replicate], ?_⟩
    intro i hi
    cases List.eq_of_mem_replicate (List.mem_of_getElem? hi)

theorem append {x' y' : Bytes} (h : AgreeOff spare x y) (h' : AgreeOff spare' x' y') :
    AgreeOff (spare ++ spare') (x ++ x') (y ++ y') where
  length_left := by rw [List.length_append, List.length_append, h.length_left, h'.length_left]
  length_right := by rw [List.length_append, List.length_append, h.length_right, h'.length_right]
  eq_of_kept i hi := by
    by_cases hlt : i < spare.length
    · rw [List.getElem?_append_left hlt] at hi
      rw [List.getElem?_append_left (h.length_left ▸ hlt),
        List.getElem?_append_left (h.length_right ▸ hlt)]
      exact h.eq_of_kept i hi
    · have hle : spare.length ≤ i := Nat.le_of_not_lt hlt
      rw [List.getElem?_append_right hle] at hi
      rw [List.getElem?_append_right (h.length_left ▸ hle),
        List.getElem?_append_right (h.length_right ▸ hle), h.length_left, h.length_right]
      exact h'.eq_of_kept _ hi

/-- What agrees with two parts one after another comes in two parts. -/
theorem append_iff {y' : Bytes} (hy : y.length = spare.length) :
    AgreeOff (spare ++ spare') x (y ++ y') ↔
      ∃ u v, x = u ++ v ∧ AgreeOff spare u y ∧ AgreeOff spare' v y' := by
  constructor
  · intro h
    have hx := h.length_left
    have hy' := h.length_right
    rw [List.length_append] at hx
    rw [List.length_append, List.length_append] at hy'
    refine ⟨x.take spare.length, x.drop spare.length, (List.take_append_drop _ x).symm,
      ⟨?_, hy, ?_⟩, ⟨?_, by omega, ?_⟩⟩
    · rw [List.length_take]
      omega
    · intro i hi
      have hlt : i < spare.length := (List.getElem?_eq_some_iff.mp hi).1
      have hkept := h.eq_of_kept i (by rwa [List.getElem?_append_left hlt])
      rw [List.getElem?_append_left (hy ▸ hlt)] at hkept
      rw [List.getElem?_take_of_lt hlt, hkept]
    · rw [List.length_drop]
      omega
    · intro i hi
      have hkept := h.eq_of_kept (spare.length + i)
        (by rwa [List.getElem?_append_right (Nat.le_add_right _ i), Nat.add_sub_cancel_left])
      rw [List.getElem?_append_right (by omega), hy, Nat.add_sub_cancel_left] at hkept
      rw [List.getElem?_drop, hkept]
  · rintro ⟨u, v, rfl, hu, hv⟩
    exact hu.append hv

/-- A word in front, all of which counts. -/
theorem word_iff (w : UInt32) : AgreeOff (List.replicate 4 false ++ spare) x (Bytes.ofWord w ++ y) ↔
    ∃ lead, x = Bytes.ofWord w ++ lead ∧ AgreeOff spare lead y := by
  rw [append_iff (Bytes.length_ofWord w)]
  simp only [kept_iff (Bytes.length_ofWord w)]
  constructor
  · rintro ⟨_, lead, rfl, rfl, h⟩
    exact ⟨lead, rfl, h⟩
  · rintro ⟨lead, rfl, h⟩
    exact ⟨_, lead, rfl, rfl, h⟩

/-- Where nothing is left to compare. -/
theorem nil_iff : AgreeOff [] x [] ↔ x = [] := kept_iff (n := 0) rfl

end AgreeOff

/-- Where the word or the words of a scalar say nothing. -/
def Scalar.spare : Scalar → List Bool
  | int8 _ | uint8 _ => [true, true, true, false]
  | int16 _ | uint16 _ => [true, true, false, false]
  | int64 _ | uint64 _ | double _ => List.replicate 8 false
  | bool _ | int32 _ | uint32 _ | float _ | char _ => List.replicate 4 false

def spareOfData (n : Nat) : List Bool :=
  List.replicate n false ++ List.replicate (Bytes.padding n).length true

theorem length_worded (w : UInt32) {bytes : Bytes} {spare : List Bool}
    (h : bytes.length = spare.length) :
    (Bytes.ofWord w ++ bytes).length = (List.replicate 4 false ++ spare).length := by
  rw [List.length_append, List.length_append, h, Bytes.length_ofWord, List.length_replicate]

theorem length_padded (data : Bytes) :
    (data ++ Bytes.padding data.length).length = (spareOfData data.length).length := by
  rw [spareOfData, List.length_append, List.length_append, List.length_replicate,
    List.length_replicate]

/-- Data with any padding behind it. -/
theorem AgreeOff.data_iff {data x : Bytes} :
    AgreeOff (spareOfData data.length) x (data ++ Bytes.padding data.length) ↔
      ∃ pad : Bytes, pad.length = (Bytes.padding data.length).length ∧ x = data ++ pad := by
  rw [spareOfData, append_iff List.length_replicate.symm]
  simp only [kept_iff rfl, spare_iff rfl]
  constructor
  · rintro ⟨_, pad, rfl, rfl, h⟩
    exact ⟨pad, h, rfl⟩
  · rintro ⟨pad, h, rfl⟩
    exact ⟨data, pad, rfl, rfl, h⟩

namespace Datum

mutual

/-- The places of what is written for a datum that say nothing. Under a fixed wrapper readers find
bare data. -/
def spare : Datum → List Bool
  | scalar s => s.spare
  | string s => List.replicate 4 false ++ spareOfData (utf8 s).length
  | blob bytes => List.replicate 4 false ++ spareOfData bytes.length
  | void => []
  | absent => List.replicate 4 false
  | present value => List.replicate 4 false ++ value.spare
  | array items => List.replicate 4 false ++ spareOfAll items
  | record fields => spareOfAll fields
  | wrap value => value.spare
  | fixed (blob bytes) => spareOfData bytes.length
  | fixed value => value.spare
  | variant _ value => List.replicate 4 false ++ value.spare
  | unsupported _ => []

def spareOfAll : List Datum → List Bool
  | [] => []
  | d :: rest => d.spare ++ spareOfAll rest

end

end Datum

namespace Scalar

variable {lead : Bytes}

/-- Agreeing in the last byte is agreeing as a byte. -/
theorem agreeOff_low8 (v : UInt32) : AgreeOff [true, true, true, false] lead (Bytes.ofWord v) ↔
    ∃ w, lead = Bytes.ofWord w ∧ w.toUInt8 = v.toUInt8 := by
  constructor
  · intro h
    match lead, h.length_left with
    | [a, b, c, d], _ =>
      have hd := h.eq_of_kept 3 rfl
      have hw := congrArg (·[3]?) (Bytes.ofWord_word a b c d)
      exact ⟨_, (Bytes.ofWord_word a b c d).symm, Option.some.inj (hw.trans hd)⟩
  · rintro ⟨w, rfl, hlow⟩
    refine ⟨rfl, rfl, ?_⟩
    intro i hi
    match i, hi with
    | 3, _ => exact congrArg some hlow

/-- Agreeing in the last two bytes is agreeing as half a word. -/
theorem agreeOff_low16 (v : UInt32) :
    AgreeOff [true, true, false, false] lead (Bytes.ofWord v) ↔
      ∃ w, lead = Bytes.ofWord w ∧ w.toUInt16 = v.toUInt16 := by
  constructor
  · intro h
    match lead, h.length_left with
    | [a, b, c, d], _ =>
      have hc : c = UInt8.ofNat (v.toNat / 256) := Option.some.inj (h.eq_of_kept 2 rfl)
      have hd : d = UInt8.ofNat v.toNat := Option.some.inj (h.eq_of_kept 3 rfl)
      refine ⟨_, (Bytes.ofWord_word a b c d).symm, ?_⟩
      apply UInt16.toNat_inj.mp
      simp only [UInt32.toNat_toUInt16, Bytes.toNat_word, hc, hd, UInt8.toNat_ofNat']
      omega
  · rintro ⟨w, rfl, hlow⟩
    have hlow := congrArg UInt16.toNat hlow
    simp only [UInt32.toNat_toUInt16] at hlow
    refine ⟨rfl, rfl, ?_⟩
    intro i hi
    match i, hi with
    | 2, _ =>
      refine congrArg some (UInt8.toNat_inj.mp ?_)
      simp only [UInt8.toNat_ofNat']
      omega
    | 3, _ =>
      refine congrArg some (UInt8.toNat_inj.mp ?_)
      simp only [UInt8.toNat_ofNat']
      omega

/-- Every byte of a scalar says something or is spare. -/
theorem length_spare (s : Scalar) : s.bytes.length = s.spare.length := by
  cases s <;> rfl

/-- A reader of one kind of scalar: `f` makes what the scalar holds out of what is read. -/
private theorem takes_kind {kind : Kind} {r : Reader α} {form : α → Bytes → Prop} (f : α → β)
    (mk : β → Scalar) (hr : Takes r form) (hkind : ∀ b, (mk b).kind = kind)
    (honly : ∀ s, s.kind = kind → ∃ b, s = mk b)
    (hform : ∀ b lead, (∃ a, form a lead ∧ b = f a) ↔ AgreeOff (mk b).spare lead (mk b).bytes) :
    Takes (do return mk (f (← r))) fun s lead =>
      s.kind = kind ∧ AgreeOff s.spare lead s.bytes := by
  refine (hr.map fun a => mk (f a)).congr ?_
  intro s lead
  constructor
  · rintro ⟨a, ha, rfl⟩
    exact ⟨hkind (f a), (hform (f a) lead).mp ⟨a, ha, rfl⟩⟩
  · rintro ⟨hs, h⟩
    obtain ⟨b, rfl⟩ := honly s hs
    obtain ⟨a, ha, rfl⟩ := (hform b lead).mpr h
    exact ⟨a, ha, rfl⟩

/-- Nothing is spare in bytes that can be made out from what is read. -/
private theorem kept_iff {n : Nat} {f : α → β} (bytes : α → Bytes) (g : β → α)
    (hfg : ∀ a b, b = f a ↔ a = g b) (hlength : ∀ a, (bytes a).length = n) (b : β)
    (lead : Bytes) :
    (∃ a, lead = bytes a ∧ b = f a) ↔
      AgreeOff (List.replicate n false) lead (bytes (g b)) := by
  rw [AgreeOff.kept_iff (hlength _)]
  simp only [hfg, exists_eq_right]

private theorem low8_iff {f : UInt8 → β} (g : β → UInt32) (hf : ∀ x y, f x = f y → x = y)
    (hgf : ∀ b, f (g b).toUInt8 = b) (b : β) (lead : Bytes) :
    (∃ w, lead = Bytes.ofWord w ∧ b = f w.toUInt8) ↔
      AgreeOff [true, true, true, false] lead (Bytes.ofWord (g b)) := by
  rw [agreeOff_low8]
  refine exists_congr fun w => and_congr_right fun _ => ?_
  constructor
  · intro h
    exact hf _ _ ((hgf b).trans h).symm
  · intro h
    rw [h, hgf]

private theorem low16_iff {f : UInt16 → β} (g : β → UInt32) (hf : ∀ x y, f x = f y → x = y)
    (hgf : ∀ b, f (g b).toUInt16 = b) (b : β) (lead : Bytes) :
    (∃ w, lead = Bytes.ofWord w ∧ b = f w.toUInt16) ↔
      AgreeOff [true, true, false, false] lead (Bytes.ofWord (g b)) := by
  rw [agreeOff_low16]
  refine exists_congr fun w => and_congr_right fun _ => ?_
  constructor
  · intro h
    exact hf _ _ ((hgf b).trans h).symm
  · intro h
    rw [h, hgf]

/-- A kind of scalar is read off what agrees with what is written for a scalar of that kind. -/
theorem takes (kind : Kind) :
    Takes (Reader.scalar kind) fun s lead =>
      s.kind = kind ∧ AgreeOff s.spare lead s.bytes := by
  cases kind with
  | bool =>
    exact takes_kind id .bool .bool (fun _ => rfl) (fun | .bool b, rfl => ⟨b, rfl⟩)
      (kept_iff (fun b : Bool => Bytes.ofWord (if b then 1 else 0)) id (fun _ _ => eq_comm)
        fun _ => rfl)
  | int8 =>
    exact takes_kind (fun w : UInt32 => w.toUInt8.toInt8) .int8 .word (fun _ => rfl)
      (fun | .int8 n, rfl => ⟨n, rfl⟩)
      (low8_iff (fun n : Int8 => n.toInt32.toUInt32) (fun _ _ => congrArg Int8.toUInt8)
        Reads.low_int8)
  | int16 =>
    exact takes_kind (fun w : UInt32 => w.toUInt16.toInt16) .int16 .word (fun _ => rfl)
      (fun | .int16 n, rfl => ⟨n, rfl⟩)
      (low16_iff (fun n : Int16 => n.toInt32.toUInt32) (fun _ _ => congrArg Int16.toUInt16)
        Reads.low_int16)
  | int32 =>
    exact takes_kind id .int32 .int32 (fun _ => rfl) (fun | .int32 n, rfl => ⟨n, rfl⟩)
      (kept_iff (fun n : Int32 => Bytes.ofWord n.toUInt32) id (fun _ _ => eq_comm) fun _ => rfl)
  | int64 =>
    have hsigned (l : UInt64) (n : Int64) : n = l.toInt64 ↔ l = n.toUInt64 :=
      ⟨by rintro rfl; rfl, by rintro rfl; rfl⟩
    exact takes_kind UInt64.toInt64 .int64 .long (fun _ => rfl) (fun | .int64 n, rfl => ⟨n, rfl⟩)
      (kept_iff Bytes.ofLong Int64.toUInt64 hsigned fun _ => rfl)
  | uint8 =>
    exact takes_kind UInt32.toUInt8 .uint8 .word (fun _ => rfl) (fun | .uint8 n, rfl => ⟨n, rfl⟩)
      (low8_iff UInt8.toUInt32 (fun _ _ h => h) fun n => UInt8.toUInt8_toUInt32 n)
  | uint16 =>
    exact takes_kind UInt32.toUInt16 .uint16 .word (fun _ => rfl)
      (fun | .uint16 n, rfl => ⟨n, rfl⟩)
      (low16_iff UInt16.toUInt32 (fun _ _ h => h) fun n => UInt16.toUInt16_toUInt32 n)
  | uint32 =>
    exact takes_kind id .uint32 .word (fun _ => rfl) (fun | .uint32 n, rfl => ⟨n, rfl⟩)
      (kept_iff Bytes.ofWord id (fun _ _ => eq_comm) fun _ => rfl)
  | uint64 =>
    exact takes_kind id .uint64 .long (fun _ => rfl) (fun | .uint64 n, rfl => ⟨n, rfl⟩)
      (kept_iff Bytes.ofLong id (fun _ _ => eq_comm) fun _ => rfl)
  | float =>
    exact takes_kind id .float .word (fun _ => rfl) (fun | .float bits, rfl => ⟨bits, rfl⟩)
      (kept_iff Bytes.ofWord id (fun _ _ => eq_comm) fun _ => rfl)
  | double =>
    exact takes_kind id .double .long (fun _ => rfl) (fun | .double bits, rfl => ⟨bits, rfl⟩)
      (kept_iff Bytes.ofLong id (fun _ _ => eq_comm) fun _ => rfl)
  | char =>
    exact takes_kind id .char .char (fun _ => rfl) (fun | .char c, rfl => ⟨c, rfl⟩)
      (kept_iff (fun c : Char => Bytes.ofWord c.val) id (fun _ _ => eq_comm) fun _ => rfl)

end Scalar

end GuestInventory.Xdr
