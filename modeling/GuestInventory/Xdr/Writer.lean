import GuestInventory.Xdr.Datum

/-!
Writing a datum. The only state that writing carries from one part to the next is a mark, set on
entering a fixed wrapper: the next byte string under it goes out without its length word and takes
the mark away. Every wrapper sets the mark anew from its own kind and clears it on leaving, so no
mark outlives the value it was set for. A construct that has no form stops the writing, and what
was written before it stays written.
-/
namespace GuestInventory.Xdr

structure Written where
  bytes : Bytes
  marked : Bool
  fault : Option Error

namespace Written

/-- Bytes that leave the mark as they found it. -/
def plain (bytes : Bytes) (marked : Bool) : Written := ⟨bytes, marked, none⟩

def before (lead : Bytes) (w : Written) : Written := { w with bytes := lead ++ w.bytes }

/-- A wrapper takes the mark away however its content ended. -/
def leave (w : Written) : Written := { w with marked := false }

end Written

/-- Data with its length word, unless the mark drops it, and its padding. -/
def writeBlob (data : Bytes) (marked : Bool) : Written :=
  let body := data ++ Bytes.padding data.length
  ⟨if marked then body else Bytes.ofWord (UInt32.ofNat data.length) ++ body, false, none⟩

def utf8 (s : String) : Bytes := s.toUTF8.data.toList

namespace Datum

mutual

def write : Datum → Bool → Written
  | scalar s, marked => .plain s.bytes marked
  | string s, marked => writeBlob (utf8 s) marked
  | blob bytes, marked => writeBlob bytes marked
  | void, marked => .plain [] marked
  | absent, marked => .plain (Bytes.ofWord 0) marked
  | present value, marked => (value.write marked).before (Bytes.ofWord 1)
  | array items, marked =>
    (writeAll items marked).before (Bytes.ofWord (UInt32.ofNat items.length))
  | record fields, marked => writeAll fields marked
  | wrap value, _ => (value.write false).leave
  | fixed value, _ => (value.write true).leave
  | variant arm value, marked => (value.write marked).before (Bytes.ofWord arm)
  | unsupported construct, marked => ⟨[], marked, some (.unsupported construct)⟩

def writeAll : List Datum → Bool → Written
  | [], marked => .plain [] marked
  | d :: rest, marked =>
    let first := d.write marked
    match first.fault with
    | none => (writeAll rest first.marked).before first.bytes
    | some _ => first

end

/-- What one value writes by itself, and why it stopped if it did. -/
def output (d : Datum) : Bytes × Option Error :=
  let w := d.write false
  (w.bytes, w.fault)

def encode (d : Datum) : Except Error Bytes :=
  match d.output with
  | (bytes, none) => .ok bytes
  | (_, some e) => .error e

end Datum

/-- One writer for several values: it goes on after a value that failed, and keeps the mark as the
last value left it. -/
structure Writer where
  output : Bytes := []
  marked : Bool := false

def Writer.put (w : Writer) (d : Datum) : Writer × Option Error :=
  let written := d.write w.marked
  ({ output := w.output ++ written.bytes, marked := written.marked }, written.fault)

def Writer.putAll (w : Writer) : List Datum → Writer × List (Option Error)
  | [] => (w, [])
  | d :: rest =>
    let (w, fault) := w.put d
    let (w, faults) := w.putAll rest
    (w, fault :: faults)

end GuestInventory.Xdr
