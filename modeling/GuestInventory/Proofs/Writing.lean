import GuestInventory.Xdr.Writer

/-!
What a datum goes out as when no mark is set. A datum without a fault finds no mark, leaves none
and goes out as its parts go out, one after another, behind the words that its construct adds.
-/
namespace GuestInventory.Xdr.Datum

/-- What a datum goes out as when no mark is set. -/
def wire (d : Datum) : Bytes := (d.write false).bytes

def Plain (d : Datum) : Prop := d.write false = .plain d.wire false

variable {d : Datum} {bytes : Bytes}

theorem wire_of_write (h : d.write false = .plain bytes false) : d.wire = bytes := by
  rw [wire, h, Written.plain]

theorem plain_of_write (h : d.write false = .plain bytes false) : d.Plain := by
  rw [Plain, wire_of_write h, h]

/-- What is plain can be written. -/
theorem Plain.encode (h : d.Plain) : d.encode = .ok d.wire := by
  have hwrite : d.write false = .plain d.wire false := h
  simp only [Datum.encode, output, hwrite, Written.plain]

theorem plain_scalar (s : Scalar) : (scalar s).Plain := rfl

theorem plain_string (s : String) : (string s).Plain := rfl

theorem plain_void : void.Plain := rfl

theorem write_present (h : d.Plain) :
    (present d).write false = .plain (Bytes.ofWord 1 ++ d.wire) false := by
  have hwrite : d.write false = .plain d.wire false := h
  simp only [write, hwrite, Written.before, Written.plain]

theorem write_variant (arm : UInt32) (h : d.Plain) :
    (variant arm d).write false = .plain (Bytes.ofWord arm ++ d.wire) false := by
  have hwrite : d.write false = .plain d.wire false := h
  simp only [write, hwrite, Written.before, Written.plain]

theorem write_wrap (h : d.Plain) : (wrap d).write false = .plain d.wire false := by
  have hwrite : d.write false = .plain d.wire false := h
  simp only [write, hwrite, Written.leave, Written.plain]

/-- Sixteen bytes go out bare: the mark drops their length word, and they need no padding. -/
theorem write_fixed (data : Bytes) (hdata : data.length = 16) :
    (fixed (blob data)).write false = .plain data false := by
  simp [write, writeBlob, Written.leave, Written.plain, Bytes.padding, hdata]

/-- By induction on the data: plain ones leave no mark to the next. -/
theorem writeAll_plain (ds : List Datum) (h : ∀ d ∈ ds, d.Plain) :
    writeAll ds false = .plain (ds.flatMap wire) false := by
  induction ds with
  | nil => rfl
  | cons d rest ih =>
    have hd : d.write false = .plain d.wire false := h d List.mem_cons_self
    have hrest := ih (fun e he => h e (List.mem_cons_of_mem d he))
    simp only [writeAll, hd, Written.plain, hrest, Written.before, List.flatMap_cons]

theorem write_record (ds : List Datum) (h : ∀ d ∈ ds, d.Plain) :
    (record ds).write false = .plain (ds.flatMap wire) false :=
  writeAll_plain ds h

theorem write_array (ds : List Datum) (h : ∀ d ∈ ds, d.Plain) :
    (array ds).write false =
      .plain (Bytes.ofWord (UInt32.ofNat ds.length) ++ ds.flatMap wire) false := by
  simp only [write, writeAll_plain ds h, Written.before, Written.plain]

theorem plain_record (ds : List Datum) (h : ∀ d ∈ ds, d.Plain) : (record ds).Plain :=
  plain_of_write (write_record ds h)

theorem plain_list (f : α → Datum) (items : List α) (h : ∀ a ∈ items, (f a).Plain) :
    (list f items).Plain := by
  refine plain_of_write (write_array _ ?_)
  intro d hd
  obtain ⟨a, ha, rfl⟩ := List.mem_map.mp hd
  exact h a ha

theorem wire_record (ds : List Datum) (h : ∀ d ∈ ds, d.Plain) :
    (record ds).wire = ds.flatMap wire :=
  wire_of_write (write_record ds h)

theorem wire_list (f : α → Datum) (items : List α) (h : ∀ a ∈ items, (f a).Plain) :
    (list f items).wire =
      Bytes.ofWord (UInt32.ofNat items.length) ++ items.flatMap fun a => (f a).wire := by
  have hall : ∀ d ∈ items.map f, d.Plain := by
    intro d hd
    obtain ⟨a, ha, rfl⟩ := List.mem_map.mp hd
    exact h a ha
  rw [list, wire_of_write (write_array _ hall), List.length_map, List.flatMap_map]

theorem length_wire_le_record {ds : List Datum} (h : ∀ d ∈ ds, d.Plain) (hd : d ∈ ds) :
    d.wire.length ≤ (record ds).wire.length := by
  rw [wire_record ds h]
  exact (List.sublist_flatten_of_mem (List.mem_map_of_mem hd)).length_le

theorem length_wire_le_list {f : α → Datum} {items : List α} (h : ∀ a ∈ items, (f a).Plain)
    {a : α} (ha : a ∈ items) : (f a).wire.length ≤ (list f items).wire.length := by
  have hitem : (f a).wire.length ≤ (items.flatMap fun a => (f a).wire).length :=
    (List.sublist_flatten_of_mem (List.mem_map_of_mem (f := fun a => (f a).wire) ha)).length_le
  rw [wire_list f items h, List.length_append]
  omega

theorem length_le_wire_string (s : String) : (utf8 s).length ≤ (string s).wire.length := by
  have hwire : (string s).wire = Bytes.ofWord (UInt32.ofNat (utf8 s).length) ++
      (utf8 s ++ Bytes.padding (utf8 s).length) := rfl
  rw [hwire, List.length_append, List.length_append]
  omega

theorem length_wire_le_present (h : d.Plain) : d.wire.length ≤ (present d).wire.length := by
  rw [wire_of_write (write_present h), List.length_append]
  omega

end GuestInventory.Xdr.Datum
