import GuestInventory.Bytes

/-!
Lowercase hexadecimal text: two digits for a byte, as few digits as possible for a number.
-/
namespace GuestInventory.Hex

def digit (n : Nat) : Char :=
  if n < 10 then Char.ofNat (48 + n) else Char.ofNat (87 + n)

def ofByte (b : UInt8) : List Char :=
  [digit (b.toNat / 16), digit (b.toNat % 16)]

/-- Exactly `width` digits, leading zeros included. -/
def fixed : (width : Nat) → Nat → List Char
  | 0, _ => []
  | width + 1, n => digit (n / 16 ^ width % 16) :: fixed width n

def ofNat (n : Nat) : String := String.ofList (Nat.toDigits 16 n)

end GuestInventory.Hex
