/-!
Byte strings, and the big-endian words of four and eight bytes they are made of. A word is taken
apart and put together by division, so that reading back what was written is arithmetic.
-/
namespace GuestInventory

abbrev Bytes := List UInt8

namespace Bytes

def ofWord (w : UInt32) : Bytes :=
  [UInt8.ofNat (w.toNat / 16777216), UInt8.ofNat (w.toNat / 65536),
    UInt8.ofNat (w.toNat / 256), UInt8.ofNat w.toNat]

def word (a b c d : UInt8) : UInt32 :=
  UInt32.ofNat (((a.toNat * 256 + b.toNat) * 256 + c.toNat) * 256 + d.toNat)

def ofLong (l : UInt64) : Bytes :=
  ofWord (UInt32.ofNat (l.toNat / 4294967296)) ++ ofWord (UInt32.ofNat l.toNat)

def long (high low : UInt32) : UInt64 :=
  UInt64.ofNat (high.toNat * 4294967296 + low.toNat)

/-- The zero bytes that fill `n` bytes up to the next word. -/
def padding (n : Nat) : Bytes := List.replicate ((4 - n % 4) % 4) 0

@[simp] theorem length_ofWord (w : UInt32) : (ofWord w).length = 4 := rfl

@[simp] theorem length_ofLong (l : UInt64) : (ofLong l).length = 8 := rfl

@[simp] theorem length_padding (n : Nat) : (padding n).length = (4 - n % 4) % 4 :=
  List.length_replicate

theorem padding_fills (n : Nat) : (n + (padding n).length) % 4 = 0 := by
  rw [length_padding]
  omega

end Bytes

end GuestInventory
