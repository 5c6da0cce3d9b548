import GuestInventory.Proofs.Spare

/-!
Reading by a layout accepts what writing produces and nothing else, but for the bytes that say
nothing. A lead spells a datum if the datum fits the layout and the lead agrees with what is written
for it off its spare places. A layout takes exactly the leads that spell a datum.
-/
namespace GuestInventory.Xdr.Layout

/-- The leads that stand for `d` where `layout` is expected. -/
structure Spells (layout : Layout) (d : Datum) (lead : Bytes) : Prop where
  fits : Fits layout d
  agree : AgreeOff d.spare lead d.wire

structure SpellsAll (fields : List Layout) (ds : List Datum) (lead : Bytes) : Prop where
  length : fields.length = ds.length
  fits : ∀ p ∈ fields.zip ds, Fits p.1 p.2
  agree : AgreeOff (Datum.spareOfAll ds) lead (ds.flatMap Datum.wire)

variable {layout item : Layout} {d : Datum} {lead : Bytes}

theorem plain_of_fits (h : Fits layout d) : d.Plain := (conveys_of_fits h).plain

theorem wire_present (h : Fits layout d) :
    (Datum.present d).wire = Bytes.ofWord 1 ++ d.wire :=
  Datum.wire_of_write (Datum.write_present (plain_of_fits h))

theorem wire_variant (arm : UInt32) (h : Fits layout d) :
    (Datum.variant arm d).wire = Bytes.ofWord arm ++ d.wire :=
  Datum.wire_of_write (Datum.write_variant arm (plain_of_fits h))

theorem wire_wrap (h : Fits layout d) : (Datum.wrap d).wire = d.wire :=
  Datum.wire_of_write (Datum.write_wrap (plain_of_fits h))

theorem wire_array {items : List Datum} (h : ∀ d ∈ items, Fits item d) :
    (Datum.array items).wire =
      Bytes.ofWord (UInt32.ofNat items.length) ++ items.flatMap Datum.wire :=
  Datum.wire_of_write (Datum.write_array items fun d hd => plain_of_fits (h d hd))

theorem forall_fits {fields : List Layout} {ds : List Datum} (hlength : fields.length = ds.length)
    {p : Datum → Prop} (h : ∀ q ∈ fields.zip ds, p q.2) : ∀ d ∈ ds, p d := by
  intro d hd
  obtain ⟨i, hi, rfl⟩ := List.getElem_of_mem hd
  have hi' : i < (fields.zip ds).length := by
    rw [List.length_zip]
    omega
  have hmem := h _ (List.getElem_mem hi')
  rwa [List.getElem_zip] at hmem

theorem wire_record {fields : List Layout} {ds : List Datum} (hlength : fields.length = ds.length)
    (h : ∀ p ∈ fields.zip ds, Fits p.1 p.2) :
    (Datum.record ds).wire = ds.flatMap Datum.wire :=
  Datum.wire_record ds (forall_fits hlength fun p hp => plain_of_fits (h p hp))

/-- Spare places are told for every byte of what is written, and for no others. -/
theorem length_flatMap_wire (ds : List Datum) (h : ∀ d ∈ ds, d.wire.length = d.spare.length) :
    (ds.flatMap Datum.wire).length = (Datum.spareOfAll ds).length := by
  induction ds with
  | nil => rfl
  | cons d rest ih =>
    rw [List.forall_mem_cons] at h
    rw [Datum.spareOfAll, List.flatMap_cons, List.length_append, List.length_append, h.1, ih h.2]

/-- A place for every byte. -/
theorem length_wire (h : Fits layout d) : d.wire.length = d.spare.length := by
  induction h with
  | scalar s => exact Scalar.length_spare s
  | string s hs => exact length_worded _ (length_padded (utf8 s))
  | blob data hdata => exact length_worded _ (length_padded data)
  | void => rfl
  | sixteen data hdata =>
    rw [Datum.wire_of_write (Datum.write_fixed data hdata)]
    simp [Datum.spare, spareOfData, hdata]
  | absent value => rfl
  | present hd ih =>
    rw [wire_present hd]
    exact length_worded 1 ih
  | array hlength hitems ih | boundedArray hmaximum hlength hitems ih =>
    rw [wire_array hitems]
    exact length_worded _ (length_flatMap_wire _ ih)
  | record hlength hfields ih =>
    rw [wire_record hlength hfields, length_flatMap_wire _ (forall_fits hlength ih), Datum.spare]
  | wrap hd ih => rw [wire_wrap hd, ih, Datum.spare]
  | union harm hd ih =>
    rw [wire_variant _ hd]
    exact length_worded _ ih

/-- Items spelled one after another. -/
theorem each_iff {items : List Datum} :
    Each (Spells item) items lead ↔ (∀ d ∈ items, Fits item d) ∧
      AgreeOff (Datum.spareOfAll items) lead (items.flatMap Datum.wire) := by
  induction items generalizing lead with
  | nil => simp [each_nil_iff, Datum.spareOfAll, AgreeOff.nil_iff]
  | cons d rest ih =>
    rw [each_cons_iff, List.forall_mem_cons, Datum.spareOfAll, List.flatMap_cons]
    constructor
    · rintro ⟨x, y, rfl, hd, hrest⟩
      obtain ⟨hfits, hagree⟩ := ih.mp hrest
      exact ⟨⟨hd.fits, hfits⟩, hd.agree.append hagree⟩
    · rintro ⟨⟨hd, hrest⟩, hagree⟩
      obtain ⟨x, y, rfl, hx, hy⟩ := (AgreeOff.append_iff (length_wire hd)).mp hagree
      exact ⟨x, y, rfl, ⟨hd, hx⟩, ih.mpr ⟨hrest, hy⟩⟩

/-- The form that a layout takes, from the form that its reader takes: a datum is made of what is
read in one way only. -/
theorem takes_made {r : Reader α} {form : α → Bytes → Prop} (f : α → Datum) (hr : Takes r form)
    (hform : ∀ a lead, form a lead ↔ Spells layout (f a) lead)
    (honly : ∀ d, Fits layout d → ∃ a, d = f a) :
    Takes (do return f (← r)) (Spells layout) := by
  refine (hr.map f).congr ?_
  intro d lead
  constructor
  · rintro ⟨a, ha, rfl⟩
    exact (hform a lead).mp ha
  · intro h
    obtain ⟨a, rfl⟩ := honly d h.fits
    exact ⟨a, (hform a lead).mpr h, rfl⟩

theorem takes_scalar (kind : Scalar.Kind) :
    Takes (read (.scalar kind)) (Spells (.scalar kind)) := by
  refine takes_made .scalar (Scalar.takes kind) ?_ ?_
  · intro s lead
    constructor
    · rintro ⟨rfl, h⟩
      exact ⟨.scalar s, h⟩
    · rintro ⟨hfits, h⟩
      cases hfits
      exact ⟨rfl, h⟩
  · intro d h
    cases h
    exact ⟨_, rfl⟩

/-- The form of a byte string, as its datum has it. -/
theorem counted_data_iff {data : Bytes} :
    (∃ pad : Bytes, pad.length = (Bytes.padding data.length).length ∧
      lead = Bytes.ofWord (UInt32.ofNat data.length) ++ (data ++ pad)) ↔
      AgreeOff (List.replicate 4 false ++ spareOfData data.length) lead
        (Bytes.ofWord (UInt32.ofNat data.length) ++ (data ++ Bytes.padding data.length)) := by
  rw [AgreeOff.word_iff]
  simp only [AgreeOff.data_iff]
  constructor
  · rintro ⟨pad, hpad, rfl⟩
    exact ⟨_, rfl, pad, hpad, rfl⟩
  · rintro ⟨_, rfl, pad, hpad, rfl⟩
    exact ⟨pad, hpad, rfl⟩

/-- The padding of a string is counted and not looked at. -/
theorem takes_string : Takes (read .string) (Spells .string) := by
  refine takes_made .string Takes.string ?_ ?_
  · intro s lead
    rw [counted_data_iff]
    constructor
    · rintro ⟨hs, h⟩
      exact ⟨.string s hs, h⟩
    · rintro ⟨hfits, h⟩
      cases hfits with
      | string s hs => exact ⟨hs, h⟩
  · intro d h
    cases h
    exact ⟨_, rfl⟩

theorem takes_blob : Takes (read .blob) (Spells .blob) := by
  refine takes_made .blob Takes.blob ?_ ?_
  · intro data lead
    rw [counted_data_iff]
    constructor
    · rintro ⟨hdata, h⟩
      exact ⟨.blob data hdata, h⟩
    · rintro ⟨hfits, h⟩
      cases hfits with
      | blob data hdata => exact ⟨hdata, h⟩
  · intro d h
    cases h
    exact ⟨_, rfl⟩

theorem takes_void : Takes (read .void) (Spells .void) := by
  refine (Takes.pure Datum.void).congr ?_
  intro d lead
  constructor
  · rintro ⟨rfl, rfl⟩
    exact ⟨.void, AgreeOff.refl rfl⟩
  · rintro ⟨hfits, h⟩
    cases hfits
    exact ⟨rfl, AgreeOff.nil_iff.mp h⟩

theorem takes_sixteen : Takes (read .sixteen) (Spells .sixteen) := by
  have hagree {data lead : Bytes} (hdata : data.length = 16) :
      AgreeOff (spareOfData data.length) lead (Datum.fixed (.blob data)).wire ↔ lead = data := by
    have hspare : spareOfData data.length = List.replicate 16 false := by
      rw [hdata]
      rfl
    rw [Datum.wire_of_write (Datum.write_fixed data hdata), hspare, AgreeOff.kept_iff hdata]
  refine takes_made (fun data => .fixed (.blob data)) (Takes.raw 16) ?_ ?_
  · intro data lead
    constructor
    · rintro ⟨hdata, rfl⟩
      exact ⟨.sixteen lead hdata, (hagree hdata).mpr rfl⟩
    · rintro ⟨hfits, h⟩
      cases hfits with
      | sixteen data hdata => exact ⟨hdata, (hagree hdata).mp h⟩
  · intro d h
    cases h
    exact ⟨_, rfl⟩

theorem takes_option {value : Layout} (hvalue : Takes value.read (Spells value)) :
    Takes (read (.option value)) (Spells (.option value)) := by
  refine takes_made optionDatum hvalue.option ?_ ?_
  · intro o lead
    constructor
    · rintro (⟨rfl, rfl⟩ | ⟨d, y, rfl, rfl, hd⟩)
      · exact ⟨.absent value, AgreeOff.refl rfl⟩
      · refine ⟨.present hd.fits, ?_⟩
        rw [optionDatum, Datum.option, id, wire_present hd.fits]
        exact (AgreeOff.word_iff _).mpr ⟨y, rfl, hd.agree⟩
    · rintro ⟨hfits, h⟩
      cases o with
      | none => exact Or.inl ⟨rfl, (AgreeOff.kept_iff (n := 4) rfl).mp h⟩
      | some d =>
        cases hfits with
        | present hd =>
          change Fits value d at hd
          change AgreeOff (Datum.present d).spare lead (Datum.present d).wire at h
          rw [wire_present hd] at h
          obtain ⟨y, rfl, hy⟩ := (AgreeOff.word_iff _).mp h
          exact Or.inr ⟨d, y, rfl, rfl, hd, hy⟩
  · intro d h
    cases h with
    | absent => exact ⟨none, rfl⟩
    | @present _ d _ => exact ⟨some d, rfl⟩

/-- The form of counted items, for both layouts of them. -/
theorem counted_items_iff {items : List Datum} :
    (∃ y, lead = Bytes.ofWord (UInt32.ofNat items.length) ++ y ∧ Each (Spells item) items y) ↔
      (∀ d ∈ items, Fits item d) ∧
        AgreeOff (Datum.array items).spare lead (Datum.array items).wire := by
  constructor
  · rintro ⟨y, rfl, h⟩
    obtain ⟨hfits, hagree⟩ := each_iff.mp h
    rw [wire_array hfits]
    exact ⟨hfits, (AgreeOff.word_iff _).mpr ⟨y, rfl, hagree⟩⟩
  · rintro ⟨hfits, h⟩
    rw [wire_array hfits] at h
    obtain ⟨y, rfl, hagree⟩ := (AgreeOff.word_iff _).mp h
    exact ⟨y, rfl, each_iff.mpr ⟨hfits, hagree⟩⟩

theorem takes_array (hitem : Takes item.read (Spells item)) :
    Takes (read (.array item)) (Spells (.array item)) := by
  refine takes_made .array hitem.array ?_ ?_
  · intro items lead
    rw [counted_items_iff]
    constructor
    · rintro ⟨hlength, hitems, h⟩
      exact ⟨.array hlength hitems, h⟩
    · rintro ⟨hfits, h⟩
      cases hfits with
      | array hlength hitems => exact ⟨hlength, hitems, h⟩
  · intro d h
    cases h
    exact ⟨_, rfl⟩

theorem takes_boundedArray (maximum : Nat) (hitem : Takes item.read (Spells item)) :
    Takes (read (.boundedArray maximum item)) (Spells (.boundedArray maximum item)) := by
  refine takes_made .array (hitem.boundedArray maximum) ?_ ?_
  · intro items lead
    rw [counted_items_iff]
    constructor
    · rintro ⟨hmaximum, hlength, hitems, h⟩
      exact ⟨.boundedArray hmaximum hlength hitems, h⟩
    · rintro ⟨hfits, h⟩
      cases hfits with
      | boundedArray hmaximum hlength hitems => exact ⟨hmaximum, hlength, hitems, h⟩
  · intro d h
    cases h
    exact ⟨_, rfl⟩

/-- Fields are taken one after another, each by its own layout. -/
theorem takes_fields (fields : List Layout)
    (hfields : ∀ field ∈ fields, Takes field.read (Spells field)) :
    Takes (readFields fields) (SpellsAll fields) := by
  induction fields with
  | nil =>
    refine (Takes.pure []).congr ?_
    intro ds lead
    constructor
    · rintro ⟨rfl, rfl⟩
      exact ⟨rfl, List.forall_mem_nil _, AgreeOff.refl rfl⟩
    · rintro ⟨hlength, -, h⟩
      obtain rfl := List.length_eq_zero_iff.mp hlength.symm
      exact ⟨rfl, AgreeOff.nil_iff.mp h⟩
  | cons field rest ih =>
    rw [List.forall_mem_cons] at hfields
    refine (hfields.1.bind fun first => (ih hfields.2).map (first :: ·)).congr ?_
    intro ds lead
    constructor
    · rintro ⟨d, x, y, rfl, hd, ds, hrest, rfl⟩
      refine ⟨congrArg (· + 1) hrest.length, ?_, hd.agree.append hrest.agree⟩
      rw [List.zip_cons_cons, List.forall_mem_cons]
      exact ⟨hd.fits, hrest.fits⟩
    · rintro ⟨hlength, hfits, h⟩
      obtain ⟨d, ds, rfl⟩ := List.exists_cons_of_length_eq_add_one hlength.symm
      rw [List.zip_cons_cons, List.forall_mem_cons] at hfits
      rw [Datum.spareOfAll, List.flatMap_cons] at h
      obtain ⟨x, y, rfl, hx, hy⟩ := (AgreeOff.append_iff (length_wire hfits.1)).mp h
      exact ⟨d, x, y, rfl, ⟨hfits.1, hx⟩, ds, ⟨Nat.succ.inj hlength, hfits.2, hy⟩, rfl⟩

theorem takes_record (fields : List Layout)
    (hfields : ∀ field ∈ fields, Takes field.read (Spells field)) :
    Takes (read (.record fields)) (Spells (.record fields)) := by
  refine takes_made .record (takes_fields fields hfields) ?_ ?_
  · intro ds lead
    constructor
    · rintro ⟨hlength, hfits, h⟩
      refine ⟨.record hlength hfits, ?_⟩
      rw [wire_record hlength hfits]
      exact h
    · rintro ⟨hfits, h⟩
      cases hfits with
      | record hlength hfits =>
        rw [wire_record hlength hfits] at h
        exact ⟨hlength, hfits, h⟩
  · intro d h
    cases h
    exact ⟨_, rfl⟩

theorem takes_wrap {value : Layout} (hvalue : Takes value.read (Spells value)) :
    Takes (read (.wrap value)) (Spells (.wrap value)) := by
  refine takes_made .wrap hvalue ?_ ?_
  · intro d lead
    constructor
    · rintro ⟨hfits, h⟩
      refine ⟨.wrap hfits, ?_⟩
      rw [wire_wrap hfits]
      exact h
    · rintro ⟨hfits, h⟩
      cases hfits with
      | wrap hfits =>
        rw [wire_wrap hfits] at h
        exact ⟨hfits, h⟩
  · intro d h
    cases h
    exact ⟨_, rfl⟩

/-- By induction on the arms that are passed over. -/
theorem takes_arm (arms : List Layout) (harms : ∀ value ∈ arms, Takes value.read (Spells value))
    (i : Nat) (arm : UInt32) (count : Nat) :
    Takes (readArm arms i arm count) fun d lead =>
      ∃ value, arms[i]? = some value ∧ Spells value d lead := by
  induction arms generalizing i with
  | nil =>
    refine (Takes.throw (.unknownArm arm count)).congr ?_
    intro d lead
    simp
  | cons first rest ih =>
    rw [List.forall_mem_cons] at harms
    cases i with
    | zero => exact harms.1.congr fun d lead => by simp
    | succ i => exact (ih harms.2 i).congr fun d lead => by simp

theorem takes_union (arms : List Layout)
    (harms : ∀ value ∈ arms, Takes value.read (Spells value)) :
    Takes (read (.union arms)) (Spells (.union arms)) := by
  have hnext (arm : UInt32) :=
    (takes_arm arms harms arm.toNat arm arms.length).map (Datum.variant arm)
  refine (Takes.word.bind hnext).congr ?_
  intro d lead
  constructor
  · rintro ⟨arm, _, y, rfl, rfl, d, ⟨value, harm, hd⟩, rfl⟩
    refine ⟨.union harm hd.fits, ?_⟩
    rw [wire_variant arm hd.fits]
    exact (AgreeOff.word_iff arm).mpr ⟨y, rfl, hd.agree⟩
  · rintro ⟨hfits, h⟩
    cases hfits with
    | @union _ arm value d harm hd =>
      rw [wire_variant arm hd] at h
      obtain ⟨y, rfl, hy⟩ := (AgreeOff.word_iff arm).mp h
      exact ⟨arm, _, y, rfl, rfl, d, ⟨value, harm, hd, hy⟩, rfl⟩

theorem takes_unsupported (construct : Construct) :
    Takes (read (.unsupported construct)) (Spells (.unsupported construct)) := by
  refine (Takes.throw (.unsupported construct)).congr ?_
  intro d lead
  refine iff_of_false id ?_
  rintro ⟨hfits, -⟩
  cases hfits

mutual

/-- One case for each construct: it takes the leads that spell what is made of its parts. -/
theorem takes : (layout : Layout) → Takes layout.read (Spells layout)
  | .scalar kind => takes_scalar kind
  | .string => takes_string
  | .blob => takes_blob
  | .void => takes_void
  | .sixteen => takes_sixteen
  | .option value => takes_option value.takes
  | .array item => takes_array item.takes
  | .boundedArray maximum item => takes_boundedArray maximum item.takes
  | .record fields => takes_record fields (takesAll fields)
  | .wrap value => takes_wrap value.takes
  | .union arms => takes_union arms (takesAll arms)
  | .unsupported construct => takes_unsupported construct

theorem takesAll : (layouts : List Layout) → ∀ layout ∈ layouts, Takes layout.read (Spells layout)
  | [] => List.forall_mem_nil _
  | layout :: rest => List.forall_mem_cons.mpr ⟨layout.takes, takesAll rest⟩

end

/-- What was read is written again as the bytes it was read from, spare places aside, and what
stands in spare places has no part in what is read. -/
theorem read_only_written (layout : Layout) (unread rest : Bytes) (d : Datum)
    (h : layout.read unread = .ok d rest) :
    ∃ lead bytes, unread = lead ++ rest ∧ d.encode = .ok bytes ∧ bytes.length = lead.length ∧
      layout.read bytes = .ok d [] ∧ AgreeOff d.spare lead bytes ∧
      ∀ other, AgreeOff d.spare other lead →
        ∀ after, layout.read (other ++ after) = .ok d after := by
  obtain ⟨lead, rfl, hfits, hagree⟩ := (layout.takes unread d rest).mp h
  have hconveys := conveys_of_fits hfits
  have hlength : d.wire.length = lead.length := (length_wire hfits).trans hagree.length_left.symm
  refine ⟨lead, d.wire, rfl, hconveys.plain.encode, hlength, hconveys.read, hagree, ?_⟩
  intro other hother after
  exact layout.takes.reads ⟨hfits, hother.trans hagree⟩ after

def short : Layout :=
  .record [.scalar .int8, .option .blob, .union [.void, .scalar .uint16]]

def shortDatum : Datum :=
  .record [.scalar (.int8 (-2)), .present (.blob [97]), .variant 1 (.scalar (.uint16 258))]

/-- No writer writes it so: neither the high bytes nor the padding are what they should be. -/
def shortLead : Bytes :=
  [171, 205, 239, 254, 0, 0, 0, 1, 0, 0, 0, 1, 97, 9, 9, 9, 0, 0, 0, 1, 7, 7, 1, 2]

/-- What nobody would write is read all the same, and written back as it should have been. -/
theorem read_only_written_short :
    short.read (shortLead ++ [42]) = .ok shortDatum [42] ∧
    ∃ lead bytes, shortLead ++ [42] = lead ++ [42] ∧ shortDatum.encode = .ok bytes ∧
      bytes.length = lead.length ∧ short.read bytes = .ok shortDatum [] ∧
      AgreeOff shortDatum.spare lead bytes ∧
      ∀ other, AgreeOff shortDatum.spare other lead →
        ∀ after, short.read (other ++ after) = .ok shortDatum after :=
  ⟨rfl, read_only_written short (shortLead ++ [42]) [42] shortDatum rfl⟩

end GuestInventory.Xdr.Layout
