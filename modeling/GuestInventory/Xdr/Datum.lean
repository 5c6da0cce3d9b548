import GuestInventory.Xdr.Error
import GuestInventory.Uuid

/-!
Values as the writer sees them: scalars of one or two words, byte strings, and the constructs that
combine them. Which construct a value uses decides what is written besides its parts: an array
counts its items, a record does not, a variant names its arm.
-/
namespace GuestInventory.Xdr

/-- Values of one word or two. Floating point numbers are their bit patterns. -/
inductive Scalar
  | bool (b : Bool)
  | int8 (n : Int8)
  | int16 (n : Int16)
  | int32 (n : Int32)
  | int64 (n : Int64)
  | uint8 (n : UInt8)
  | uint16 (n : UInt16)
  | uint32 (n : UInt32)
  | uint64 (n : UInt64)
  | float (bits : UInt32)
  | double (bits : UInt64)
  | char (c : Char)
  deriving DecidableEq

namespace Scalar

inductive Kind
  | bool
  | int8
  | int16
  | int32
  | int64
  | uint8
  | uint16
  | uint32
  | uint64
  | float
  | double
  | char
  deriving DecidableEq

def kind : Scalar → Kind
  | bool _ => .bool
  | int8 _ => .int8
  | int16 _ => .int16
  | int32 _ => .int32
  | int64 _ => .int64
  | uint8 _ => .uint8
  | uint16 _ => .uint16
  | uint32 _ => .uint32
  | uint64 _ => .uint64
  | float _ => .float
  | double _ => .double
  | char _ => .char

/-- Short integers fill a word, the signed ones with copies of their sign. -/
def bytes : Scalar → Bytes
  | bool b => Bytes.ofWord (if b then 1 else 0)
  | int8 n => Bytes.ofWord n.toInt32.toUInt32
  | int16 n => Bytes.ofWord n.toInt32.toUInt32
  | int32 n => Bytes.ofWord n.toUInt32
  | int64 n => Bytes.ofLong n.toUInt64
  | uint8 n => Bytes.ofWord n.toUInt32
  | uint16 n => Bytes.ofWord n.toUInt32
  | uint32 n => Bytes.ofWord n
  | uint64 n => Bytes.ofLong n
  | float bits => Bytes.ofWord bits
  | double bits => Bytes.ofLong bits
  | char c => Bytes.ofWord c.val

end Scalar

inductive Datum
  | scalar (s : Scalar)
  | string (s : String)
  | blob (bytes : Bytes)
  | void
  /-- An optional value that is missing. -/
  | absent
  | present (value : Datum)
  /-- A counted array. -/
  | array (items : List Datum)
  /-- Fields one after another. -/
  | record (fields : List Datum)
  /-- A named wrapper around one value. -/
  | wrap (value : Datum)
  /-- The wrapper whose name announces data of fixed length. -/
  | fixed (value : Datum)
  | variant (arm : UInt32) (value : Datum)
  | unsupported (construct : Construct)

namespace Datum

def bool (b : Bool) : Datum := scalar (.bool b)

def int32 (n : Int32) : Datum := scalar (.int32 n)

def uint32 (n : UInt32) : Datum := scalar (.uint32 n)

def uuid (u : Uuid) : Datum := fixed (blob u.bytes)

def option (f : α → Datum) : Option α → Datum
  | none => absent
  | some a => present (f a)

def list (f : α → Datum) (items : List α) : Datum := array (items.map f)

end Datum

end GuestInventory.Xdr
