import GuestInventory.Xdr.Datum

/-!
Reading from the front of the unread bytes. A failure keeps the bytes that were not consumed, and a
read that finds too few bytes consumes none of them.
-/
namespace GuestInventory.Xdr

abbrev Reader := EStateM Error Bytes

namespace Reader

def word : Reader UInt32
  | a :: b :: c :: d :: rest => .ok (Bytes.word a b c d) rest
  | short => .error .endOfInput short

def long : Reader UInt64
  | a :: b :: c :: d :: e :: f :: g :: h :: rest =>
    .ok (Bytes.long (Bytes.word a b c d) (Bytes.word e f g h)) rest
  | short => .error .endOfInput short

/-- Exactly `n` bytes as they stand. -/
def raw (n : Nat) : Reader Bytes := fun unread =>
  let taken := unread.take n
  if taken.length = n then .ok taken (unread.drop n) else .error .endOfInput unread

def bool : Reader Bool := do
  let w ← word
  if w = 0 then return false
  else if w = 1 then return true
  else throw (.invalidBool w)

def int32 : Reader Int32 := do
  return (← word).toInt32

def char : Reader Char := do
  let w ← word
  if h : w.isValidChar then return ⟨w, h⟩ else throw (.invalidChar w)

/-- Short integers are the low bits of their word, whatever the others hold. -/
def scalar : Scalar.Kind → Reader Scalar
  | .bool => return .bool (← bool)
  | .int8 => return .int8 (← word).toUInt8.toInt8
  | .int16 => return .int16 (← word).toUInt16.toInt16
  | .int32 => return .int32 (← int32)
  | .int64 => return .int64 (← long).toInt64
  | .uint8 => return .uint8 (← word).toUInt8
  | .uint16 => return .uint16 (← word).toUInt16
  | .uint32 => return .uint32 (← word)
  | .uint64 => return .uint64 (← long)
  | .float => return .float (← word)
  | .double => return .double (← long)
  | .char => return .char (← char)

/-- The length word is checked before the data is looked for, and the padding has to be there
although nothing is asked of it. -/
def blob : Reader Bytes := do
  let length := (← word).toNat
  if stringMaximum < length then throw (.stringTooLong length)
  let data ← raw length
  let _ ← raw (Bytes.padding length).length
  return data

def string : Reader String := do
  let data ← blob
  match String.fromUTF8? ⟨data.toArray⟩ with
  | some s => return s
  | none => throw .invalidUtf8

def uuid : Reader Uuid := fun unread =>
  if h : (unread.take 16).length = 16 then .ok ⟨unread.take 16, h⟩ (unread.drop 16)
  else .error .endOfInput unread

def option (item : Reader α) : Reader (Option α) := do
  let w ← word
  if w = 0 then return none
  else if w = 1 then return some (← item)
  else throw (.invalidOptional w)

/-- `n` items one after another, put behind the ones read before, which come in reverse. -/
def timesOnto (item : Reader α) : (n : Nat) → List α → Reader (List α)
  | 0, before => return before.reverse
  | n + 1, before => do
    let a ← item
    timesOnto item n (a :: before)

def times (n : Nat) (item : Reader α) : Reader (List α) := timesOnto item n []

def array (item : Reader α) : Reader (List α) := do
  times (← word).toNat item

end Reader

/-- Of what may be offered as an identifier, only byte data of the right length will do. -/
def Offer.uuid : Offer → Except Error Uuid
  | bytes data =>
    match Uuid.ofBytes? data with
    | some u => .ok u
    | none => .error (.notSixteenBytes (.bytes data))
  | offer => .error (.notSixteenBytes offer)

end GuestInventory.Xdr
