import Mathlib.Data.List.Basic
import GuestInventory.Inventory
import GuestInventory.Proofs.JsonReading

/-!
The document is standard pretty printing with escapes for the characters beyond ASCII. A value is
printed by events: an array begins, a fragment of a literal comes, a member ends. A formatter
answers each event with text, and keeps an account of the level it is at. The formatter of the
document wraps the standard one: it writes fragments itself, character by character, and hands on
the events of the layout. So the two write the same text at each event but the fragments, and
there they differ by a map of characters.
-/
namespace GuestInventory

namespace Json

inductive Event
  | beginArray
  | endArray
  | beginItem (first : Bool)
  | endItem
  | beginObject
  | endObject
  | beginName (first : Bool)
  | endName
  | beginMember
  | endMember
  | beginString
  | endString
  | fragment (cs : List Char)
  | escape (c : Char)

section Events

def mustEscape (c : Char) : Bool := c = '"' || c = '\\' || c.toNat < 0x20

def flush : (run : List Char) → List Event
  | [] => []
  | c :: run => [.fragment (c :: run)]

/-- The contents of a literal: the escapes, and what stands between them as fragments. `run` is the
fragment that has been begun. -/
def contents (run : List Char) : List Char → List Event
  | [] => flush run
  | c :: rest =>
    if mustEscape c then flush run ++ .escape c :: contents [] rest
    else contents (run ++ [c]) rest

def literal (s : String) : List Event := .beginString :: (contents [] s.toList ++ [.endString])

mutual

def events : Value → List Event
  | .string s => literal s
  | .array items => .beginArray :: (itemEvents true items ++ [.endArray])
  | .object members => .beginObject :: (memberEvents true members ++ [.endObject])

def itemEvents (first : Bool) : List Value → List Event
  | [] => []
  | item :: rest => .beginItem first :: (events item ++ .endItem :: itemEvents false rest)

def memberEvents (first : Bool) : List (String × Value) → List Event
  | [] => []
  | (name, value) :: rest =>
    .beginName first :: (literal name ++ .endName :: .beginMember ::
      (events value ++ .endMember :: memberEvents false rest))

end

namespace Event

/-- A fragment has no character that must be escaped, and nothing else is escaped. -/
def Sound : Event → Prop
  | .fragment cs => ∀ c ∈ cs, mustEscape c = false
  | .escape c => mustEscape c = true
  | _ => True

theorem sound_flush {run : List Char} (h : ∀ c ∈ run, mustEscape c = false) :
    ∀ e ∈ flush run, e.Sound := by
  cases run with
  | nil => nofun
  | cons c run => exact List.forall_mem_singleton.mpr h

theorem sound_contents {run : List Char} (h : ∀ c ∈ run, mustEscape c = false) (cs : List Char) :
    ∀ e ∈ contents run cs, e.Sound := by
  induction cs generalizing run with
  | nil => exact sound_flush h
  | cons c rest ih =>
    rw [contents]
    split
    · rename_i hc
      rw [List.forall_mem_append, List.forall_mem_cons]
      exact ⟨sound_flush h, hc, ih (List.forall_mem_nil _)⟩
    · rename_i hc
      refine ih ?_
      rw [List.forall_mem_append, List.forall_mem_singleton]
      exact ⟨h, Bool.eq_false_iff.mpr hc⟩

theorem sound_literal (s : String) : ∀ e ∈ literal s, e.Sound := by
  rw [literal, List.forall_mem_cons, List.forall_mem_append, List.forall_mem_singleton]
  exact ⟨trivial, sound_contents (List.forall_mem_nil _) s.toList, trivial⟩

mutual

theorem sound_events : (v : Value) → ∀ e ∈ events v, e.Sound
  | .string s => by
    rw [events]
    exact sound_literal s
  | .array items => by
    rw [events, List.forall_mem_cons, List.forall_mem_append, List.forall_mem_singleton]
    exact ⟨trivial, sound_itemEvents true items, trivial⟩
  | .object members => by
    rw [events, List.forall_mem_cons, List.forall_mem_append, List.forall_mem_singleton]
    exact ⟨trivial, sound_memberEvents true members, trivial⟩

theorem sound_itemEvents (first : Bool) :
    (items : List Value) → ∀ e ∈ itemEvents first items, e.Sound
  | [] => by
    rw [itemEvents]
    nofun
  | item :: rest => by
    rw [itemEvents, List.forall_mem_cons, List.forall_mem_append, List.forall_mem_cons]
    exact ⟨trivial, sound_events item, trivial, sound_itemEvents false rest⟩

theorem sound_memberEvents (first : Bool) :
    (members : List (String × Value)) → ∀ e ∈ memberEvents first members, e.Sound
  | [] => by
    rw [memberEvents]
    nofun
  | (name, value) :: rest => by
    simp only [memberEvents, List.forall_mem_cons, List.forall_mem_append]
    exact ⟨trivial, sound_literal name, trivial, trivial, sound_events value, trivial,
      sound_memberEvents false rest⟩

end

end Event

end Events

section Formatters

abbrev Formatter (σ : Type) := σ → Event → σ × List Char

namespace Event

def compact : Event → List Char
  | .beginArray => ['[']
  | .endArray => [']']
  | .beginItem first | .beginName first => if first then [] else [',']
  | .beginObject => ['\x7b']
  | .endObject => ['\x7d']
  | .beginMember => [':']
  | .beginString | .endString => ['"']
  | .fragment cs => cs
  | .escape c => plainChar c
  | .endItem | .endName | .endMember => []

def laysOut : Event → Bool
  | .beginArray | .endArray | .beginItem _ | .endItem => true
  | .beginObject | .endObject | .beginName _ | .beginMember | .endMember => true
  | .endName | .beginString | .endString | .fragment _ | .escape _ => false

end Event

/-- How deep pretty printing is in containers, and whether a container that ends here has anything
in it. -/
structure Pen where
  depth : Nat
  filled : Bool

namespace Pen

def start : Pen := ⟨0, false⟩

def opened (pen : Pen) : Pen := ⟨pen.depth + 1, false⟩

def closed (pen : Pen) : Pen := { pen with depth := pen.depth - 1 }

def closing (pen : Pen) : List Char := if pen.filled then newline (pen.depth - 1) else []

def separator (pen : Pen) (first : Bool) : List Char :=
  if first then newline pen.depth else ',' :: newline pen.depth

end Pen

def standard : Formatter Pen
  | pen, .beginArray => (pen.opened, ['['])
  | pen, .endArray => (pen.closed, pen.closing ++ [']'])
  | pen, .beginItem first => (pen, pen.separator first)
  | pen, .endItem => ({ pen with filled := true }, [])
  | pen, .beginObject => (pen.opened, ['\x7b'])
  | pen, .endObject => (pen.closed, pen.closing ++ ['\x7d'])
  | pen, .beginName first => (pen, pen.separator first)
  | pen, .beginMember => (pen, [':', ' '])
  | pen, .endMember => ({ pen with filled := true }, [])
  | pen, e => (pen, e.compact)

def escapeOutside (c : Char) : List Char :=
  if Printable c then [c] else (utf16 c).flatMap unitEscape

/-- Writes fragments in printable ASCII, and leaves the layout to another formatter. -/
def escaping (inner : Formatter σ) : Formatter σ
  | s, .fragment cs => (s, cs.flatMap escapeOutside)
  | s, e => if e.laysOut then inner s e else (s, e.compact)

def transcript (f : Formatter σ) : σ → List Event → List (Event × List Char)
  | _, [] => []
  | s, e :: es => (e, (f s e).2) :: transcript f (f s e).1 es

def printed (f : Formatter σ) (s : σ) (es : List Event) : List Char :=
  (transcript f s es).flatMap Prod.snd

/-- A formatter that sees to the layout only, and lays out in ASCII. -/
structure LaysOut (inner : Formatter σ) : Prop where
  others : ∀ s e, e.laysOut = false → inner s e = (s, e.compact)
  ascii : ∀ s e, e.laysOut = true → ∀ c ∈ (inner s e).2, c.toNat < 0x7f

def beyondAscii (c : Char) : List Char :=
  if c.toNat < 0x7f then [c] else (utf16 c).flatMap unitEscape

def onFragment (form : Char → List Char) : Event × List Char → Event × List Char
  | (.fragment cs, text) => (.fragment cs, text.flatMap form)
  | written => written

end Formatters

section Escaping

theorem mustEscape_eq_false {c : Char} :
    mustEscape c = false ↔ c ≠ '"' ∧ c ≠ '\\' ∧ 0x20 ≤ c.toNat := by
  simp [mustEscape, and_assoc]

theorem plainChar_of_stands {c : Char} (h : mustEscape c = false) : plainChar c = [c] := by
  obtain ⟨hquote, hbackslash, hcontrol⟩ := mustEscape_eq_false.mp h
  have hne {d : Char} (hd : d.toNat < 0x20) : c ≠ d := by
    rintro rfl
    omega
  rw [plainChar, if_neg hquote, if_neg hbackslash, if_neg (hne (by decide)),
    if_neg (hne (by decide)), if_neg (hne (by decide)), if_neg (hne (by decide)),
    if_neg (hne (by decide)), if_neg (by omega)]

theorem ascii_of_mustEscape {c : Char} (h : mustEscape c = true) : c.toNat < 0x7f := by
  by_contra hbeyond
  have hstands : mustEscape c = false := by
    refine mustEscape_eq_false.mpr ⟨?_, ?_, by omega⟩
    · rintro rfl
      exact hbeyond (by decide)
    · rintro rfl
      exact hbeyond (by decide)
  rw [hstands] at h
  cases h

theorem unitEscape_ascii (n : Nat) : ∀ c ∈ unitEscape n, c.toNat < 0x7f := by
  have hdigit (k : Nat) : (Hex.digit (k % 16)).toNat < 0x7f := by
    have hall : ∀ i : Fin 16, (Hex.digit i).toNat < 0x7f := by decide
    exact hall ⟨k % 16, Nat.mod_lt k (by decide)⟩
  rw [unitEscape_eq]
  simp only [List.forall_mem_cons]
  exact ⟨by decide, by decide, hdigit _, hdigit _, hdigit _, hdigit n, List.forall_mem_nil _⟩

theorem asciiChar_ascii (c : Char) : ∀ d ∈ asciiChar c, d.toNat < 0x7f := by
  have h := written_asciiChar c
  generalize asciiChar c = lead at h
  cases h with
  | plain hc => exact List.forall_mem_singleton.mpr (Nat.lt_succ_of_le hc.2)
  | short he hprintable =>
    rw [List.forall_mem_cons, List.forall_mem_singleton]
    exact ⟨by decide, Nat.lt_succ_of_le hprintable.2⟩
  | units =>
    intro d hd
    obtain ⟨n, -, hn⟩ := List.mem_flatMap.mp hd
    exact unitEscape_ascii n d hn

/-- What must be escaped is ASCII, so it has the same escape in both ways of writing. -/
theorem asciiChar_of_mustEscape {c : Char} (h : mustEscape c = true) :
    asciiChar c = plainChar c := if_pos (ascii_of_mustEscape h)

theorem flatMap_beyondAscii {cs : List Char} (h : ∀ c ∈ cs, c.toNat < 0x7f) :
    cs.flatMap beyondAscii = cs := by
  induction cs with
  | nil => rfl
  | cons c rest ih =>
    rw [List.forall_mem_cons] at h
    rw [List.flatMap_cons, beyondAscii, if_pos h.1, ih h.2, List.singleton_append]

theorem escapeOutside_of_stands {c : Char} (h : mustEscape c = false) :
    escapeOutside c = beyondAscii c := by
  obtain ⟨-, -, hcontrol⟩ := mustEscape_eq_false.mp h
  have hiff : Printable c ↔ c.toNat < 0x7f := by
    rw [Printable]
    omega
  rw [escapeOutside, beyondAscii]
  exact if_congr hiff rfl rfl

theorem flatMap_escapeOutside {cs : List Char} (h : ∀ c ∈ cs, mustEscape c = false) :
    cs.flatMap escapeOutside = cs.flatMap beyondAscii :=
  List.flatMap_congr fun c hc => escapeOutside_of_stands (h c hc)

variable {σ : Type} {inner : Formatter σ}

/-- Around a formatter that sees to the layout, only fragments are written in another way. -/
theorem escaping_step (h : LaysOut inner) (s : σ) {e : Event} (he : e.Sound) :
    (escaping inner s e).1 = (inner s e).1 ∧
      (e, (escaping inner s e).2) = onFragment beyondAscii (e, (inner s e).2) := by
  cases e with
  | fragment cs =>
    rw [h.others s (.fragment cs) rfl, escaping, flatMap_escapeOutside he]
    exact ⟨rfl, rfl⟩
  | endName | beginString | endString | escape =>
    rw [h.others s _ rfl]
    exact ⟨rfl, rfl⟩
  | beginArray | endArray | beginItem | endItem | beginObject | endObject | beginName
  | beginMember | endMember => exact ⟨rfl, rfl⟩

/-- Outside of fragments nothing beyond ASCII is written. -/
theorem onFragment_written (h : LaysOut inner) (s : σ) {e : Event} (he : e.Sound) :
    (onFragment beyondAscii (e, (inner s e).2)).2 = (inner s e).2.flatMap beyondAscii := by
  cases e with
  | fragment cs => rfl
  | endName | beginString | endString =>
    rw [h.others s _ rfl]
    rfl
  | escape c =>
    have hascii := asciiChar_ascii c
    rw [asciiChar_of_mustEscape he] at hascii
    rw [h.others s _ rfl]
    exact (flatMap_beyondAscii hascii).symm
  | beginArray | endArray | beginItem | endItem | beginObject | endObject | beginName
  | beginMember | endMember => exact (flatMap_beyondAscii (h.ascii s _ rfl)).symm

/-- By induction on the events: escaping changes the fragments and nothing else. -/
theorem transcript_escaping (h : LaysOut inner) (s : σ) {es : List Event}
    (hes : ∀ e ∈ es, e.Sound) :
    transcript (escaping inner) s es = (transcript inner s es).map (onFragment beyondAscii) := by
  induction es generalizing s with
  | nil => rfl
  | cons e es ih =>
    rw [List.forall_mem_cons] at hes
    -- The two formatters have the same state after each event, so they go on from the same one.
    obtain ⟨hstate, hwritten⟩ := escaping_step h s hes.1
    rw [transcript, transcript, List.map_cons, hwritten, hstate, ih _ hes.2]

/-- Whatever is laid out, and at whatever level: the text is the inner formatter's, with escapes
for the characters beyond ASCII. -/
theorem printed_escaping (h : LaysOut inner) (s : σ) {es : List Event}
    (hes : ∀ e ∈ es, e.Sound) :
    printed (escaping inner) s es = (printed inner s es).flatMap beyondAscii := by
  rw [printed, transcript_escaping h s hes, printed]
  induction es generalizing s with
  | nil => rfl
  | cons e es ih =>
    rw [List.forall_mem_cons] at hes
    rw [transcript, List.map_cons, List.flatMap_cons, List.flatMap_cons, List.flatMap_append,
      onFragment_written h s hes.1, ih _ hes.2]

end Escaping

section Standard

theorem newline_ascii (depth : Nat) : ∀ c ∈ newline depth, c.toNat < 0x7f := by
  rw [newline, List.forall_mem_cons]
  refine ⟨by decide, fun c hc => ?_⟩
  rw [List.eq_of_mem_replicate hc]
  decide

namespace Pen

theorem separator_ascii (pen : Pen) (first : Bool) :
    ∀ c ∈ pen.separator first, c.toNat < 0x7f := by
  cases first with
  | false => exact List.forall_mem_cons.mpr ⟨by decide, newline_ascii pen.depth⟩
  | true => exact newline_ascii pen.depth

theorem closing_ascii (pen : Pen) : ∀ c ∈ pen.closing, c.toNat < 0x7f := by
  rw [closing]
  split
  · exact newline_ascii (pen.depth - 1)
  · exact List.forall_mem_nil _

end Pen

theorem laysOut_standard : LaysOut standard where
  others pen e he := by
    cases e <;> first | rfl | cases he
  ascii pen e he := by
    cases e with
    | beginArray | beginObject => exact List.forall_mem_singleton.mpr (by decide)
    | endArray | endObject =>
      refine List.forall_mem_append.mpr ⟨pen.closing_ascii, ?_⟩
      exact List.forall_mem_singleton.mpr (by decide)
    | beginItem first | beginName first => exact pen.separator_ascii first
    | endItem | endMember => exact List.forall_mem_nil _
    | beginMember =>
      exact List.forall_mem_cons.mpr ⟨by decide, List.forall_mem_singleton.mpr (by decide)⟩
    | endName | beginString | endString | fragment | escape => cases he

end Standard

section Walking

/-- From `s` on, the events are written as `text` and leave the formatter in `s'`. -/
inductive Prints (f : Formatter σ) : (s : σ) → List Event → (s' : σ) → (text : List Char) → Prop
  | nil {s : σ} : Prints f s [] s []
  | cons {s next s' : σ} {e : Event} {es : List Event} {lead text : List Char}
      (he : f s e = (next, lead)) (hes : Prints f next es s' text) :
      Prints f s (e :: es) s' (lead ++ text)

namespace Prints

variable {f : Formatter σ} {s next s' : σ} {e : Event} {es more : List Event}
  {text rest : List Char}

theorem printed_eq (h : Prints f s es s' text) : printed f s es = text := by
  induction h with
  | nil => rfl
  | cons he hes ih =>
    rw [printed] at ih
    rw [printed, transcript, List.flatMap_cons, he, ih]

theorem single (he : f s e = (s', text)) : Prints f s [e] s' text := by
  have h := Prints.cons he .nil
  rwa [List.append_nil] at h

theorem append (h : Prints f s es next text) (hmore : Prints f next more s' rest) :
    Prints f s (es ++ more) s' (text ++ rest) := by
  induction h with
  | nil => exact hmore
  | cons he hes ih =>
    rw [List.append_assoc]
    exact .cons he (ih hmore)

section Containers

variable {f : Formatter Pen} {pen : Pen} {begins ends : Event} {opening closing : Char}

theorem hollow (hbegins : f pen begins = (pen.opened, [opening]))
    (hends : f pen.opened ends = (pen.opened.closed, pen.opened.closing ++ [closing])) :
    Prints f pen [begins, ends] ⟨pen.depth, false⟩ [opening, closing] :=
  .cons hbegins (.single hends)

theorem enclosed (hbegins : f pen begins = (pen.opened, [opening]))
    (hes : Prints f pen.opened es ⟨pen.depth + 1, true⟩ text)
    (hends : f ⟨pen.depth + 1, true⟩ ends = (⟨pen.depth, true⟩, newline pen.depth ++ [closing])) :
    Prints f pen (begins :: (es ++ [ends])) ⟨pen.depth, true⟩
      (opening :: (text ++ (newline pen.depth ++ [closing]))) :=
  .cons hbegins (hes.append (.single hends))

end Containers

end Prints

/-- A formatter that lays out as pretty printing does and writes the characters of literals in its
own way. -/
structure Pretty (f : Formatter Pen) (writeChar : Char → List Char) : Prop where
  layout : ∀ pen e, e.laysOut = true → f pen e = standard pen e
  endName : ∀ pen, f pen .endName = (pen, [])
  beginString : ∀ pen, f pen .beginString = (pen, ['"'])
  endString : ∀ pen, f pen .endString = (pen, ['"'])
  fragment : ∀ pen cs, (∀ c ∈ cs, mustEscape c = false) →
    f pen (.fragment cs) = (pen, cs.flatMap writeChar)
  escape : ∀ pen c, mustEscape c = true → f pen (.escape c) = (pen, writeChar c)

/-- Written plainly, a character is escaped only if it must be. -/
theorem pretty_standard : Pretty standard plainChar where
  layout _ _ _ := rfl
  endName _ := rfl
  beginString _ := rfl
  endString _ := rfl
  fragment pen cs hcs := by
    have hcopy : cs.flatMap plainChar = cs.flatMap fun c => [c] :=
      List.flatMap_congr fun c hc => plainChar_of_stands (hcs c hc)
    rw [hcopy, List.flatMap_singleton']
    rfl
  escape _ _ _ := rfl

/-- Written in ASCII, a character beyond it becomes its UTF-16 escapes. -/
theorem pretty_escaping : Pretty (escaping standard) asciiChar where
  layout pen e he := by
    cases e <;> first | rfl | cases he
  endName _ := rfl
  beginString _ := rfl
  endString _ := rfl
  fragment pen cs hcs := by
    have hchar : ∀ c ∈ cs, escapeOutside c = asciiChar c := fun c hc => by
      rw [escapeOutside_of_stands (hcs c hc), beyondAscii, asciiChar,
        plainChar_of_stands (hcs c hc)]
    rw [escaping, List.flatMap_congr hchar]
  escape pen c hc := by
    rw [asciiChar_of_mustEscape hc]
    rfl

namespace Pretty

variable {f : Formatter Pen} {writeChar : Char → List Char}

theorem flush (h : Pretty f writeChar) (pen : Pen) {run : List Char}
    (hrun : ∀ c ∈ run, mustEscape c = false) :
    Prints f pen (flush run) pen (run.flatMap writeChar) := by
  cases run with
  | nil => exact .nil
  | cons c run => exact .single (h.fragment pen (c :: run) hrun)

/-- It makes no difference to a literal where its fragments begin and end. -/
theorem contents (h : Pretty f writeChar) (pen : Pen) {run : List Char}
    (hrun : ∀ c ∈ run, mustEscape c = false) (cs : List Char) :
    Prints f pen (contents run cs) pen ((run ++ cs).flatMap writeChar) := by
  induction cs generalizing run with
  | nil =>
    rw [Json.contents, List.append_nil]
    exact h.flush pen hrun
  | cons c rest ih =>
    rw [Json.contents]
    split
    · rename_i hc
      rw [List.flatMap_append, List.flatMap_cons]
      exact (h.flush pen hrun).append (.cons (h.escape pen c hc) (ih (List.forall_mem_nil _)))
    · rename_i hc
      rw [List.append_cons run c rest]
      refine ih ?_
      rw [List.forall_mem_append, List.forall_mem_singleton]
      exact ⟨hrun, Bool.eq_false_iff.mpr hc⟩

theorem literal (h : Pretty f writeChar) (pen : Pen) (s : String) :
    Prints f pen (literal s) pen (quoted writeChar s) :=
  .cons (h.beginString pen) <|
    (h.contents pen (List.forall_mem_nil _) s.toList).append (.single (h.endString pen))

variable {pen : Pen} {text more : List Char} {filled : Bool}

theorem item (h : Pretty f writeChar) (first : Bool) {v : Value} {rest : List Value}
    (hv : Prints f pen (events v) ⟨pen.depth, filled⟩ text)
    (hrest : Prints f ⟨pen.depth, true⟩ (itemEvents false rest) ⟨pen.depth, true⟩ more) :
    Prints f pen (itemEvents first (v :: rest)) ⟨pen.depth, true⟩
      (pen.separator first ++ (text ++ more)) := by
  rw [itemEvents]
  exact .cons (h.layout pen (.beginItem first) rfl) <|
    hv.append (.cons (h.layout _ .endItem rfl) hrest)

theorem member (h : Pretty f writeChar) (first : Bool) (name : String) {v : Value}
    {rest : List (String × Value)} (hv : Prints f pen (events v) ⟨pen.depth, filled⟩ text)
    (hrest : Prints f ⟨pen.depth, true⟩ (memberEvents false rest) ⟨pen.depth, true⟩ more) :
    Prints f pen (memberEvents first ((name, v) :: rest)) ⟨pen.depth, true⟩
      (pen.separator first ++ ((quoted writeChar name ++ (':' :: ' ' :: text)) ++ more)) := by
  have hvalue : Prints f pen
      (.endName :: .beginMember :: (events v ++ .endMember :: memberEvents false rest))
      ⟨pen.depth, true⟩ (':' :: ' ' :: (text ++ more)) :=
    .cons (h.endName pen) <| .cons (h.layout pen .beginMember rfl) <|
      hv.append (.cons (h.layout _ .endMember rfl) hrest)
  rw [memberEvents, List.append_assoc]
  exact .cons (h.layout pen (.beginName first) rfl) ((h.literal pen name).append hvalue)

mutual

/-- A value is printed at the level at which the pen stands, and the pen is left there. -/
theorem value (h : Pretty f writeChar) : (v : Value) → ∀ pen : Pen,
    ∃ filled, Prints f pen (events v) ⟨pen.depth, filled⟩ (write writeChar pen.depth v)
  | .string s => fun pen => by
    rw [events, write]
    exact ⟨pen.filled, h.literal pen s⟩
  | .array [] => fun pen => by
    rw [events, itemEvents, write]
    exact ⟨false, .hollow (h.layout pen .beginArray rfl) (h.layout _ .endArray rfl)⟩
  | .array (v :: rest) => fun pen => by
    -- `items` begins behind an item, so the first one is told by itself, without a comma.
    obtain ⟨filled, hv⟩ := h.value v pen.opened
    have hitems := h.item true hv (h.items rest (pen.depth + 1))
    have henclosed := Prints.enclosed (h.layout pen .beginArray rfl) hitems
      (h.layout _ .endArray rfl)
    rw [List.append_assoc, List.append_assoc] at henclosed
    rw [events, write]
    exact ⟨true, henclosed⟩
  | .object [] => fun pen => by
    rw [events, memberEvents, write]
    exact ⟨false, .hollow (h.layout pen .beginObject rfl) (h.layout _ .endObject rfl)⟩
  | .object ((name, v) :: rest) => fun pen => by
    obtain ⟨filled, hv⟩ := h.value v pen.opened
    have hmembers := h.member true name hv (h.members rest (pen.depth + 1))
    have henclosed := Prints.enclosed (h.layout pen .beginObject rfl) hmembers
      (h.layout _ .endObject rfl)
    rw [List.append_assoc, List.append_assoc] at henclosed
    rw [events, write]
    exact ⟨true, henclosed⟩

theorem items (h : Pretty f writeChar) : (items : List Value) → ∀ depth,
    Prints f ⟨depth, true⟩ (itemEvents false items) ⟨depth, true⟩
      (writeItems writeChar depth items)
  | [] => fun depth => by
    rw [itemEvents, writeItems]
    exact .nil
  | v :: rest => fun depth => by
    obtain ⟨filled, hv⟩ := h.value v ⟨depth, true⟩
    rw [writeItems]
    exact h.item false hv (h.items rest depth)

theorem members (h : Pretty f writeChar) : (members : List (String × Value)) → ∀ depth,
    Prints f ⟨depth, true⟩ (memberEvents false members) ⟨depth, true⟩
      (writeMembers writeChar depth members)
  | [] => fun depth => by
    rw [memberEvents, writeMembers]
    exact .nil
  | (name, v) :: rest => fun depth => by
    obtain ⟨filled, hv⟩ := h.value v ⟨depth, true⟩
    rw [writeMembers, writeMember]
    exact h.member false name hv (h.members rest depth)

end

/-- A value as a whole is the events of it, told to the formatter in their order. -/
theorem printed_eq (h : Pretty f writeChar) (pen : Pen) (v : Value) :
    printed f pen (events v) = write writeChar pen.depth v := by
  obtain ⟨filled, hv⟩ := h.value v pen
  exact hv.printed_eq

end Pretty

end Walking

end Json

open Json

/-- The document of all groups is what the standard formatter writes of them, with the escapes of
their UTF-16 units for all characters beyond ASCII. At each event of any value, at any level, the
text is that of the standard formatter but for the characters of fragments, and what is empty stays
on its line. -/
theorem Inventory.text_escapes_plain (inventory : Inventory) :
    (inventory.json = .object (inventory.entries.map fun (name, group) =>
      (name, .object [("hosts", .array (group.hosts.map .string)),
        ("vars", .object [("ansible_host", .string group.address),
          ("ansible_user", .string group.user)])]))) ∧
      (plain inventory.json).toList = printed standard .start (events inventory.json) ∧
      inventory.text.toList = printed (escaping standard) .start (events inventory.json) ∧
      inventory.text.toList = (plain inventory.json).toList.flatMap beyondAscii ∧
      (∀ (v : Value) (pen : Pen), transcript (escaping standard) pen (events v) =
        (transcript standard pen (events v)).map (onFragment beyondAscii)) ∧
      ∀ pen : Pen, printed (escaping standard) pen (events (.array [])) = ['[', ']'] ∧
        printed (escaping standard) pen (events (.object [])) = ['\x7b', '\x7d'] := by
  have hplain : (plain inventory.json).toList =
      printed standard .start (events inventory.json) := by
    rw [plain, String.toList_ofList]
    exact (pretty_standard.printed_eq .start inventory.json).symm
  have htext : inventory.text.toList =
      printed (escaping standard) .start (events inventory.json) := by
    rw [Inventory.text, ascii, String.toList_ofList]
    exact (pretty_escaping.printed_eq .start inventory.json).symm
  refine ⟨rfl, hplain, htext, ?_, fun v pen => ?_, fun pen => ⟨?_, ?_⟩⟩
  · rw [htext, hplain]
    exact printed_escaping laysOut_standard .start (Event.sound_events inventory.json)
  · exact transcript_escaping laysOut_standard pen (Event.sound_events v)
  · rw [pretty_escaping.printed_eq, write]
  · rw [pretty_escaping.printed_eq, write]

end GuestInventory
