import GuestInventory.Proofs.Reading
import GuestInventory.Proofs.Writing
import GuestInventory.Xdr.Layout

/-!
A datum that fits a layout is read back by it. The mark that writing carries along does not show
in what is read, so the proof keeps it in view: outside a fixed wrapper no datum that fits finds a
mark set, and none leaves one behind.
-/
namespace GuestInventory.Xdr

/-- `d` is written without a fault, and `r` reads what was written as `a`. -/
structure Conveys (d : Datum) (r : Reader α) (a : α) : Prop where
  plain : d.Plain
  reads : Reads r d.wire a

structure ConveysAll (ds : List Datum) (r : Reader α) (a : α) : Prop where
  plain : ∀ d ∈ ds, d.Plain
  reads : Reads r (ds.flatMap Datum.wire) a

theorem ConveysAll.done (a : α) : ConveysAll [] (pure a) a where
  plain := List.forall_mem_nil _
  reads := Reads.pure a

theorem ConveysAll.bind_pure {r : Reader α} {g : α → Reader β} {ds : List Datum} {a : α} {b : β}
    (h : ConveysAll ds r a) (hg : g a = pure b) : ConveysAll ds (r >>= g) b where
  plain := h.plain
  reads := h.reads.bind_pure hg

namespace Conveys

variable {r : Reader α} {f : UInt32 → Reader α} {d : Datum} {a : α}

theorem of_write {lead : Bytes} (hwrite : d.write false = .plain lead false)
    (hreads : Reads r lead a) : Conveys d r a where
  plain := Datum.plain_of_write hwrite
  reads := by rwa [Datum.wire_of_write hwrite]

/-- Read on its own, what was written leaves nothing over. -/
theorem read (h : Conveys d r a) : r d.wire = .ok a [] := by
  have hread := h.reads []
  rwa [List.append_nil] at hread

/-- A last step that only computes is read along. -/
theorem bind_pure {g : α → Reader β} {b : β} (h : Conveys d r a) (hg : g a = pure b) :
    Conveys d (r >>= g) b where
  plain := h.plain
  reads := h.reads.bind_pure hg

theorem scalar (s : Scalar) : Conveys (.scalar s) (Reader.scalar s.kind) s :=
  of_write rfl (Reads.scalar s)

theorem int32 (n : Int32) : Conveys (.int32 n) Reader.int32 n :=
  of_write rfl (Reads.int32 n)

theorem uint32 (n : UInt32) : Conveys (.uint32 n) Reader.word n :=
  of_write rfl (Reads.word n)

theorem uuid (u : Uuid) : Conveys (.uuid u) Reader.uuid u :=
  of_write (Datum.write_fixed u.bytes u.length_bytes) (Reads.uuid u)

theorem string (s : String) (hs : (utf8 s).length ≤ stringMaximum) :
    Conveys (.string s) Reader.string s :=
  of_write rfl (Reads.string s hs)

theorem blob (data : Bytes) (hdata : data.length ≤ stringMaximum) :
    Conveys (.blob data) Reader.blob data :=
  of_write rfl (Reads.blob data hdata)

theorem none (r : Reader α) : Conveys .absent (Reader.option r) none :=
  of_write rfl (Reads.option_none r)

theorem some (h : Conveys d r a) : Conveys (.present d) (Reader.option r) (some a) :=
  of_write (Datum.write_present h.plain) (Reads.option_some h.reads)

theorem sixteen (data : Bytes) (hdata : data.length = 16) :
    Conveys (.fixed (.blob data)) (Reader.raw 16) data := by
  have hreads := Reads.raw data
  rw [hdata] at hreads
  exact of_write (Datum.write_fixed data hdata) hreads

theorem wrap (h : Conveys d r a) : Conveys (.wrap d) r a :=
  of_write (Datum.write_wrap h.plain) h.reads

/-- The arm is read first, and then what it calls for. -/
theorem variant (arm : UInt32) (h : Conveys d (f arm) a) :
    Conveys (.variant arm d) (do f (← Reader.word)) a :=
  of_write (Datum.write_variant arm h.plain) ((Reads.word arm).bind h.reads)

theorem followed {g : α → Reader β} {ds : List Datum} {b : β} (h : Conveys d r a)
    (hrest : ConveysAll ds (g a) b) : ConveysAll (d :: ds) (r >>= g) b where
  plain := List.forall_mem_cons.mpr ⟨h.plain, hrest.plain⟩
  reads := h.reads.bind hrest.reads

theorem record {ds : List Datum} (h : ConveysAll ds r a) : Conveys (.record ds) r a :=
  of_write (Datum.write_record ds h.plain) h.reads

section Array

variable (item : Reader β) (datum : α → Datum) (value : α → β) (items : List α)
    (hitems : ∀ a ∈ items, Conveys (datum a) item (value a))
include hitems

theorem array (hlength : items.length < 4294967296) :
    Conveys (.list datum items) (Reader.array item) (items.map value) where
  plain := Datum.plain_list datum items fun a ha => (hitems a ha).plain
  reads := by
    rw [Datum.wire_list datum items fun a ha => (hitems a ha).plain]
    exact Reads.array item _ value items hlength fun a ha => (hitems a ha).reads

theorem boundedArray (maximum : Nat) (hmaximum : items.length ≤ maximum)
    (hlength : items.length < 4294967296) :
    Conveys (.list datum items) (Reader.boundedArray maximum item) (items.map value) where
  plain := Datum.plain_list datum items fun a ha => (hitems a ha).plain
  reads := by
    rw [Datum.wire_list datum items fun a ha => (hitems a ha).plain]
    exact Reads.boundedArray item _ value items maximum hmaximum hlength
      fun a ha => (hitems a ha).reads

end Array

end Conveys

/-- The data of a layout that its writer and its reader agree on. A string stays within the limit
that reading puts on it, and an array within what its count can say. -/
inductive Fits : Layout → Datum → Prop
  | scalar (s : Scalar) : Fits (.scalar s.kind) (.scalar s)
  | string (s : String) (hs : (utf8 s).length ≤ stringMaximum) : Fits .string (.string s)
  | blob (data : Bytes) (hdata : data.length ≤ stringMaximum) : Fits .blob (.blob data)
  | void : Fits .void .void
  | sixteen (data : Bytes) (hdata : data.length = 16) : Fits .sixteen (.fixed (.blob data))
  | absent (value : Layout) : Fits (.option value) .absent
  | present {value : Layout} {d : Datum} (hd : Fits value d) : Fits (.option value) (.present d)
  | array {item : Layout} {items : List Datum} (hlength : items.length < 4294967296)
      (hitems : ∀ d ∈ items, Fits item d) : Fits (.array item) (.array items)
  | boundedArray {maximum : Nat} {item : Layout} {items : List Datum}
      (hmaximum : items.length ≤ maximum) (hlength : items.length < 4294967296)
      (hitems : ∀ d ∈ items, Fits item d) : Fits (.boundedArray maximum item) (.array items)
  | record {fields : List Layout} {ds : List Datum} (hlength : fields.length = ds.length)
      (hfields : ∀ p ∈ fields.zip ds, Fits p.1 p.2) : Fits (.record fields) (.record ds)
  | wrap {value : Layout} {d : Datum} (hd : Fits value d) : Fits (.wrap value) (.wrap d)
  | union {arms : List Layout} {arm : UInt32} {value : Layout} {d : Datum}
      (harm : arms[arm.toNat]? = some value) (hd : Fits value d) :
      Fits (.union arms) (.variant arm d)

namespace Layout

theorem readArm_eq (arms : List Layout) (i : Nat) (arm : UInt32) (count : Nat) (value : Layout)
    (h : arms[i]? = some value) : readArm arms i arm count = value.read := by
  induction arms generalizing i with
  | nil => simp at h
  | cons first rest ih =>
    cases i with
    | zero =>
      rw [List.getElem?_cons_zero, Option.some.injEq] at h
      rw [readArm, h]
    | succ i =>
      rw [List.getElem?_cons_succ] at h
      rw [readArm, ih i h]

/-- Fields are read one after another, each by its own layout. -/
theorem conveysAll_fields (fields : List Layout) (ds : List Datum)
    (hlength : fields.length = ds.length)
    (hfields : ∀ p ∈ fields.zip ds, Conveys p.2 p.1.read p.2) :
    ConveysAll ds (readFields fields) ds := by
  induction fields generalizing ds with
  | nil =>
    obtain rfl : ds = [] := List.length_eq_zero_iff.mp hlength.symm
    exact ConveysAll.done []
  | cons field rest ih =>
    cases ds with
    | nil => simp at hlength
    | cons d ds =>
      simp only [List.zip_cons_cons, List.mem_cons, forall_eq_or_imp] at hfields
      have hrest := ih ds (Nat.succ.inj hlength) hfields.2
      rw [readFields]
      exact hfields.1.followed (hrest.bind_pure rfl)

/-- One case for each construct: what it adds to its parts is read back before them. -/
theorem conveys_of_fits {layout : Layout} {d : Datum} (h : Fits layout d) :
    Conveys d layout.read d := by
  induction h with
  | scalar s => exact (Conveys.scalar s).bind_pure rfl
  | string s hs => exact (Conveys.string s hs).bind_pure rfl
  | blob data hdata => exact (Conveys.blob data hdata).bind_pure rfl
  | void => exact Conveys.of_write rfl (Reads.pure Datum.void)
  | sixteen data hdata => exact (Conveys.sixteen data hdata).bind_pure rfl
  | absent value => exact (Conveys.none value.read).bind_pure rfl
  | present hd ih => exact ih.some.bind_pure rfl
  | @array item items hlength hitems ih =>
    have h := Conveys.array item.read id id items ih hlength
    simp only [Datum.list, List.map_id] at h
    exact h.bind_pure rfl
  | @boundedArray maximum item items hmaximum hlength hitems ih =>
    have h := Conveys.boundedArray item.read id id items ih maximum hmaximum hlength
    simp only [Datum.list, List.map_id] at h
    exact h.bind_pure rfl
  | @record fields ds hlength hfields ih =>
    have h := Conveys.record (conveysAll_fields fields ds hlength ih)
    exact h.bind_pure rfl
  | wrap hd ih => exact ih.wrap.bind_pure rfl
  | @union arms arm value d harm hd ih =>
    have hread : readArm arms arm.toNat arm arms.length = value.read :=
      readArm_eq arms arm.toNat arm arms.length value harm
    rw [← hread] at ih
    refine Conveys.variant arm ?_
    exact ih.bind_pure rfl

/-- Writing then reading gives the datum back and leaves alone whatever follows. -/
theorem read_encode (layout : Layout) (d : Datum) (h : Fits layout d) :
    ∃ bytes, d.encode = .ok bytes ∧ ∀ rest, layout.read (bytes ++ rest) = .ok d rest :=
  ⟨d.wire, (conveys_of_fits h).plain.encode, (conveys_of_fits h).reads⟩

def nested : Layout :=
  .array (.record [.string, .wrap .sixteen, .option (.scalar .int64), .union [.void, .blob]])

def nestedDatum : Datum := .array [
  .record [.string "vm", .wrap (.fixed (.blob (List.replicate 16 7))),
    .present (.scalar (.int64 (-2))), .variant 1 (.blob [1, 2, 3, 4, 5])],
  .record [.string "", .wrap (.fixed (.blob (List.replicate 16 0))), .absent, .variant 0 .void]]

theorem fits_nested : Fits nested nestedDatum := by
  refine .array (by decide) ?_
  simp only [List.mem_cons, List.not_mem_nil, or_false, forall_eq_or_imp, forall_eq]
  constructor
  · refine .record rfl ?_
    simp only [List.zip_cons_cons, List.zip_nil_left, List.mem_cons, List.not_mem_nil, or_false,
      forall_eq_or_imp, forall_eq]
    exact ⟨.string _ (by decide), .wrap (.sixteen _ rfl), .present (.scalar (.int64 (-2))),
      .union rfl (.blob _ (by decide))⟩
  · refine .record rfl ?_
    simp only [List.zip_cons_cons, List.zip_nil_left, List.mem_cons, List.not_mem_nil, or_false,
      forall_eq_or_imp, forall_eq]
    exact ⟨.string _ (by decide), .wrap (.sixteen _ rfl), .absent _, .union rfl .void⟩

theorem read_encode_nested :
    Fits nested nestedDatum ∧ ∃ bytes, nestedDatum.encode = .ok bytes ∧
      ∀ rest, nested.read (bytes ++ rest) = .ok nestedDatum rest :=
  ⟨fits_nested, read_encode nested nestedDatum fits_nested⟩

end Layout

end GuestInventory.Xdr
