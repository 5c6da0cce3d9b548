import GuestInventory.Hex

/-!
The sixteen bytes that identify a domain, and their canonical text: lowercase digits with dashes
after the fourth, sixth, eighth and tenth byte.
-/
namespace GuestInventory

structure Uuid where
  bytes : Bytes
  length_bytes : bytes.length = 16
  deriving DecidableEq

namespace Uuid

def size : Nat := 16

def ofBytes? (bytes : Bytes) : Option Uuid :=
  if h : bytes.length = 16 then some ⟨bytes, h⟩ else none

def zero : Uuid := ⟨List.replicate 16 0, rfl⟩

def isZero (u : Uuid) : Bool := u.bytes.all (· == 0)

/-- The digits of bytes from the `i`-th on. -/
def digitsFrom : Nat → Bytes → List Char
  | _, [] => []
  | i, b :: rest =>
    let digits := Hex.ofByte b ++ digitsFrom (i + 1) rest
    if i = 4 ∨ i = 6 ∨ i = 8 ∨ i = 10 then '-' :: digits else digits

def text (u : Uuid) : String := String.ofList (digitsFrom 0 u.bytes)

end Uuid

end GuestInventory
