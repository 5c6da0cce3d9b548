import GuestInventory.Xdr.Writer

/-!
What becomes of the mark that a fixed wrapper sets. A datum is taken apart into strokes, in the
order they are written: words, byte strings, the ways into wrappers and out of them, and a stop
where a construct has no form. Running the strokes is writing the datum, and two runs that differ
in their mark differ in the first byte string if nothing but words comes before it, and nowhere
else.
-/
namespace GuestInventory.Xdr

inductive Stroke
  /-- Words that go out with a mark or without. -/
  | words (bytes : Bytes)
  | text (data : Bytes)
  | enter (marked : Bool)
  | leave
  | stop (e : Error)

namespace Stroke

def onto (lead : Bytes) (written : Bytes × Option Error) : Bytes × Option Error :=
  (lead ++ written.1, written.2)

def lettered (data : Bytes) (marked : Bool) : Bytes :=
  (if marked then [] else Bytes.ofWord (UInt32.ofNat data.length)) ++
    (data ++ Bytes.padding data.length)

def run : List Stroke → (marked : Bool) → Bytes × Option Error
  | [], _ => ([], none)
  | words bytes :: rest, marked => onto bytes (run rest marked)
  | text data :: rest, marked => onto (lettered data marked) (run rest false)
  | enter marked :: rest, _ => run rest marked
  | leave :: rest, _ => run rest false
  | stop e :: _, _ => ([], some e)

/-- Words, and then a byte string: no wrapper is entered or left before it. -/
def Meets (lead : List Bytes) (data : Bytes) (rest strokes : List Stroke) : Prop :=
  strokes = lead.map words ++ text data :: rest

variable {lead : List Bytes} {data bytes : Bytes} {rest strokes : List Stroke}

/-- By induction on the words that come before the byte string. -/
theorem run_of_meets (h : Meets lead data rest strokes) (marked : Bool) :
    run strokes marked = onto (lead.flatten ++ lettered data marked) (run rest false) := by
  subst h
  induction lead with
  | nil => rfl
  | cons bytes lead ih =>
    rw [List.map_cons, List.cons_append, run, ih, List.flatten_cons]
    simp only [onto, List.append_assoc]

theorem Meets.words (h : Meets lead data rest strokes) (bytes : Bytes) :
    Meets (bytes :: lead) data rest (words bytes :: strokes) := by
  rw [Meets, h, List.map_cons, List.cons_append]

/-- A mark that meets no byte string makes no difference. -/
theorem run_marked (h : ∀ lead data rest, ¬ Meets lead data rest strokes) :
    run strokes true = run strokes false := by
  induction strokes with
  | nil => rfl
  | cons first rest ih =>
    cases first with
    | words bytes =>
      have hrest : ∀ lead data rest', ¬ Meets lead data rest' rest :=
        fun lead data rest' hmeets => h _ data rest' (hmeets.words bytes)
      rw [run, run, ih hrest]
    | text data => exact absurd rfl (h [] data rest)
    | enter marked => rfl
    | leave => rfl
    | stop e => rfl

end Stroke

namespace Written

open Stroke

/-- What is written in the end if writing goes on, with the mark as it was left, unless it has
stopped. -/
def andThen (w : Written) (next : Bool → Bytes × Option Error) : Bytes × Option Error :=
  match w.fault with
  | none => onto w.bytes (next w.marked)
  | some e => (w.bytes, some e)

variable {w : Written} {next : Bool → Bytes × Option Error}

theorem andThen_blob (data : Bytes) (marked : Bool) :
    (writeBlob data marked).andThen next = onto (lettered data marked) (next false) := by
  cases marked <;> rfl

theorem andThen_before (lead : Bytes) :
    (w.before lead).andThen next = onto lead (w.andThen next) := by
  obtain ⟨bytes, marked, fault⟩ := w
  cases fault with
  | none => simp only [andThen, before, onto, List.append_assoc]
  | some e => rfl

end Written

namespace Datum

open Stroke

mutual

def strokes : Datum → List Stroke
  | scalar s => [.words s.bytes]
  | string s => [.text (utf8 s)]
  | blob bytes => [.text bytes]
  | void => []
  | absent => [.words (Bytes.ofWord 0)]
  | present value => .words (Bytes.ofWord 1) :: value.strokes
  | array items => .words (Bytes.ofWord (UInt32.ofNat items.length)) :: strokesOfAll items
  | record fields => strokesOfAll fields
  | wrap value => .enter false :: (value.strokes ++ [.leave])
  | fixed value => .enter true :: (value.strokes ++ [.leave])
  | variant arm value => .words (Bytes.ofWord arm) :: value.strokes
  | unsupported construct => [.stop (.unsupported construct)]

def strokesOfAll : List Datum → List Stroke
  | [] => []
  | d :: rest => d.strokes ++ strokesOfAll rest

end

mutual

/-- Running the strokes of a datum is writing it, whatever comes after. -/
theorem run_strokes : (d : Datum) → (rest : List Stroke) → (marked : Bool) →
    run (d.strokes ++ rest) marked = (d.write marked).andThen (run rest)
  | scalar s, rest, marked => rfl
  | string s, rest, marked => (Written.andThen_blob (utf8 s) marked).symm
  | blob bytes, rest, marked => (Written.andThen_blob bytes marked).symm
  | void, rest, marked => rfl
  | absent, rest, marked => rfl
  | present value, rest, marked => by
    rw [strokes, List.cons_append, run, value.run_strokes rest marked, write,
      Written.andThen_before]
  | array items, rest, marked => by
    rw [strokes, List.cons_append, run, run_strokesOfAll items rest marked, write,
      Written.andThen_before]
  | record fields, rest, marked => run_strokesOfAll fields rest marked
  | wrap value, rest, marked => by
    rw [strokes, List.cons_append, List.append_assoc, run]
    exact value.run_strokes (.leave :: rest) false
  | fixed value, rest, marked => by
    rw [strokes, List.cons_append, List.append_assoc, run]
    exact value.run_strokes (.leave :: rest) true
  | variant arm value, rest, marked => by
    rw [strokes, List.cons_append, run, value.run_strokes rest marked, write,
      Written.andThen_before]
  | unsupported construct, rest, marked => rfl

theorem run_strokesOfAll : (ds : List Datum) → (rest : List Stroke) → (marked : Bool) →
    run (strokesOfAll ds ++ rest) marked = (writeAll ds marked).andThen (run rest)
  | [], rest, marked => rfl
  | d :: ds, rest, marked => by
    rw [strokesOfAll, List.append_assoc, d.run_strokes (strokesOfAll ds ++ rest) marked,
      Written.andThen, writeAll]
    cases hfault : (d.write marked).fault with
    | none =>
      dsimp only
      rw [run_strokesOfAll ds rest (d.write marked).marked, Written.andThen_before]
    | some e =>
      simp only [Written.andThen, hfault]

end

variable {lead : List Bytes} {data : Bytes} {rest : List Stroke}

/-- On its own a datum writes what its strokes write. -/
theorem run_strokes_eq (d : Datum) (marked : Bool) :
    run d.strokes marked = ((d.write marked).bytes, (d.write marked).fault) := by
  have hrun := d.run_strokes [] marked
  rw [List.append_nil] at hrun
  rw [hrun]
  cases hfault : (d.write marked).fault with
  | none => simp only [Written.andThen, hfault, onto, run, List.append_nil]
  | some e => simp only [Written.andThen, hfault]

/-- Wrappers differ in the mark that they set for their value. -/
theorem write_wrap_eq (d : Datum) (marked : Bool) :
    (wrap d).write marked = ⟨(run d.strokes false).1, false, (run d.strokes false).2⟩ := by
  rw [run_strokes_eq]
  rfl

/-- Under a fixed wrapper, writing begins with the mark set and ends without it. -/
theorem write_fixed_eq (d : Datum) (marked : Bool) :
    (fixed d).write marked = ⟨(run d.strokes true).1, false, (run d.strokes true).2⟩ := by
  rw [run_strokes_eq]
  rfl

/-- A fixed wrapper writes what any wrapper writes, and fails where any wrapper fails. Only if its
value comes to a byte string before it comes to a wrapper, the length word of that byte string is
missing; what comes before it and after it is as it is without a mark. -/
theorem fixed_drops_length_word (d : Datum) (marked : Bool) :
    d.output = run d.strokes false ∧
    (∀ lead data rest, Meets lead data rest d.strokes →
      (wrap d).write marked =
        ⟨lead.flatten ++ (Bytes.ofWord (UInt32.ofNat data.length) ++
          (data ++ Bytes.padding data.length)) ++ (run rest false).1,
          false, (run rest false).2⟩ ∧
      (fixed d).write marked =
        ⟨lead.flatten ++ (data ++ Bytes.padding data.length) ++ (run rest false).1,
          false, (run rest false).2⟩) ∧
    ((∀ lead data rest, ¬ Meets lead data rest d.strokes) →
      (fixed d).write marked = (wrap d).write marked) := by
  refine ⟨(run_strokes_eq d false).symm, ?_, ?_⟩
  · intro lead data rest hmeets
    rw [write_wrap_eq, write_fixed_eq, run_of_meets hmeets, run_of_meets hmeets]
    exact ⟨rfl, rfl⟩
  · intro hnone
    rw [write_wrap_eq, write_fixed_eq, run_marked hnone]

def labelled : Datum :=
  record [.uint32 7, .variant 2 (.present (.string "abc")), .string "de", .unsupported .map]

def enveloped : Datum := record [.wrap .void, .string "abc"]

/-- The first name loses its length word, the second keeps it, and what fails then fails in both. -/
theorem fixed_drops_length_word_labelled :
    Meets [[0, 0, 0, 7], [0, 0, 0, 2], [0, 0, 0, 1]] [97, 98, 99]
      [.text [100, 101], .stop (.unsupported .map)] labelled.strokes ∧
    (wrap labelled).write false =
      ⟨[0, 0, 0, 7, 0, 0, 0, 2, 0, 0, 0, 1, 0, 0, 0, 3, 97, 98, 99, 0, 0, 0, 0, 2, 100, 101, 0, 0],
        false, some (.unsupported .map)⟩ ∧
    (fixed labelled).write false =
      ⟨[0, 0, 0, 7, 0, 0, 0, 2, 0, 0, 0, 1, 97, 98, 99, 0, 0, 0, 0, 2, 100, 101, 0, 0],
        false, some (.unsupported .map)⟩ ∧
    (∀ lead data rest, ¬ Meets lead data rest enveloped.strokes) ∧
    (fixed enveloped).write false = (wrap enveloped).write false := by
  have hmeets : Meets [[0, 0, 0, 7], [0, 0, 0, 2], [0, 0, 0, 1]] [97, 98, 99]
      [.text [100, 101], .stop (.unsupported .map)] labelled.strokes := rfl
  have hnone : ∀ lead data rest, ¬ Meets lead data rest enveloped.strokes := by
    intro lead data rest hmeets
    cases lead <;> cases hmeets
  obtain ⟨-, hlabelled, -⟩ := fixed_drops_length_word labelled false
  obtain ⟨hwrap, hfixed⟩ := hlabelled _ _ _ hmeets
  exact ⟨hmeets, hwrap, hfixed, hnone, (fixed_drops_length_word enveloped false).2.2 hnone⟩

end Datum

/-- What writing comes to wherever it stops: whole words, and no mark that was not set before. -/
structure Tidy (marked : Bool) (w : Written) : Prop where
  whole : w.bytes.length % 4 = 0
  unmarked : marked = false → w.marked = false

theorem Scalar.length_bytes (s : Scalar) : s.bytes.length % 4 = 0 := by
  cases s <;> simp [bytes]

namespace Tidy

variable {w : Written} {marked : Bool}

theorem plain {bytes : Bytes} (h : bytes.length % 4 = 0) : Tidy marked (.plain bytes marked) :=
  ⟨h, id⟩

theorem before {lead : Bytes} (hlead : lead.length % 4 = 0) (hw : Tidy marked w) :
    Tidy marked (w.before lead) where
  whole := by
    have hwhole := hw.whole
    simp only [Written.before, List.length_append]
    omega
  unmarked := hw.unmarked

theorem word (n : UInt32) (hw : Tidy marked w) : Tidy marked (w.before (Bytes.ofWord n)) :=
  hw.before (by rw [Bytes.length_ofWord])

theorem leave {inner : Bool} (hw : Tidy inner w) : Tidy marked w.leave := ⟨hw.whole, fun _ => rfl⟩

theorem blob (data : Bytes) (marked : Bool) : Tidy marked (writeBlob data marked) where
  whole := by
    have hpadding := Bytes.padding_fills data.length
    cases marked <;> simp only [writeBlob, List.length_append, Bytes.length_ofWord, if_true,
      Bool.false_eq_true, if_false] <;> omega
  unmarked _ := rfl

mutual

/-- One case for each construct: its own words are whole, and its parts are tidy. -/
theorem write : (d : Datum) → (marked : Bool) → Tidy marked (d.write marked)
  | .scalar s, _ => plain s.length_bytes
  | .string s, marked => blob (utf8 s) marked
  | .blob bytes, marked => blob bytes marked
  | .void, _ => plain rfl
  | .absent, _ => plain rfl
  | .present value, marked => (write value marked).word _
  | .array items, marked => (writeAll items marked).word _
  | .record fields, marked => writeAll fields marked
  | .wrap value, _ => (write value false).leave
  | .fixed value, _ => (write value true).leave
  | .variant _ value, marked => (write value marked).word _
  | .unsupported _, _ => ⟨rfl, id⟩

/-- By induction on the data, each of which is written with the mark as the one before it left it.
-/
theorem writeAll : (ds : List Datum) → (marked : Bool) → Tidy marked (Datum.writeAll ds marked)
  | [], _ => plain rfl
  | d :: rest, marked => by
    have hd := write d marked
    have hrest := writeAll rest (d.write marked).marked
    rw [Datum.writeAll]
    cases hfault : (d.write marked).fault with
    | none => exact ⟨(hrest.before hd.whole).whole, fun h => hrest.unmarked (hd.unmarked h)⟩
    | some e => exact hd

end

end Tidy

namespace Writer

/-- A writer whose mark is clear writes one value more as if it came first, and its mark is clear
again. -/
theorem put_of_unmarked {w : Writer} (h : w.marked = false) (d : Datum) :
    w.put d = ({ output := w.output ++ d.output.1 }, d.output.2) := by
  rw [put, h, (Tidy.write d false).unmarked rfl]
  rfl

/-- By induction on the values, of which each finds the mark clear. -/
theorem putAll_of_unmarked {w : Writer} (h : w.marked = false) (items : List Datum) :
    w.putAll items =
      ({ output := w.output ++ items.flatMap fun d => d.output.1 },
        items.map fun d => d.output.2) := by
  induction items generalizing w with
  | nil =>
    obtain ⟨output, marked⟩ := w
    obtain rfl : marked = false := h
    simp [putAll]
  | cons d rest ih =>
    rw [putAll, put_of_unmarked h]
    dsimp only
    rw [ih rfl]
    simp

theorem length_flatMap_output (items : List Datum) :
    (items.flatMap fun d => d.output.1).length % 4 = 0 := by
  induction items with
  | nil => rfl
  | cons d rest ih =>
    have hd : d.output.1.length % 4 = 0 := (Tidy.write d false).whole
    rw [List.flatMap_cons, List.length_append]
    omega

/-- Values that share a writer are written as if each had its own, whichever of them fail and
wherever: one after another they give the same faults, and all that they put out, that of the
failed ones included, stands behind one another in whole words. -/
theorem values_keep_apart (items : List Datum) :
    (({} : Writer).putAll items =
      ({ output := items.flatMap fun d => (({} : Writer).put d).1.output },
        items.map fun d => (({} : Writer).put d).2)) ∧
    (({} : Writer).putAll items).1.output.length % 4 = 0 ∧
    ∀ d : Datum, (({} : Writer).putAll items).1.put d =
      ({ output := (({} : Writer).putAll items).1.output ++ (({} : Writer).put d).1.output },
        (({} : Writer).put d).2) := by
  have hput (d : Datum) : ({} : Writer).put d = ({ output := d.output.1 }, d.output.2) :=
    put_of_unmarked rfl d
  have hall : ({} : Writer).putAll items =
      ({ output := items.flatMap fun d => d.output.1 }, items.map fun d => d.output.2) :=
    putAll_of_unmarked rfl items
  simp only [hput, hall, true_and]
  exact ⟨length_flatMap_output items, put_of_unmarked rfl⟩

/-- A mark that was never used is gone when the next value comes. -/
example : ({} : Writer).putAll
    [.fixed (.record [.uint32 7, .unsupported .map]), .string "a"] =
      ({ output := [0, 0, 0, 7, 0, 0, 0, 1, 97, 0, 0, 0] },
        [some (.unsupported .map), none]) := by
  rfl

end Writer

end GuestInventory.Xdr
