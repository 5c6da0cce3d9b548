import GuestInventory.Xdr.Bounded

/-!
What a reader is told about the data it is to read. Reading by a layout gives a datum that the
writer would write in the same form.
-/
namespace GuestInventory.Xdr

inductive Layout
  | scalar (kind : Scalar.Kind)
  | string
  | blob
  | void
  /-- Sixteen bytes without a length word. -/
  | sixteen
  | option (value : Layout)
  | array (item : Layout)
  | boundedArray (maximum : Nat) (item : Layout)
  | record (fields : List Layout)
  | wrap (value : Layout)
  /-- A word that names one of the arms, and that arm. -/
  | union (arms : List Layout)
  | unsupported (construct : Construct)

namespace Layout

def optionDatum : Option Datum → Datum := Datum.option id

mutual

def read : Layout → Reader Datum
  | scalar kind => return .scalar (← Reader.scalar kind)
  | string => return .string (← Reader.string)
  | blob => return .blob (← Reader.blob)
  | void => return .void
  | sixteen => return .fixed (.blob (← Reader.raw 16))
  | option value => return optionDatum (← Reader.option value.read)
  | array item => return .array (← Reader.array item.read)
  | boundedArray maximum item => return .array (← Reader.boundedArray maximum item.read)
  | record fields => return .record (← readFields fields)
  | wrap value => return .wrap (← value.read)
  | union arms => do
    let arm ← Reader.word
    return .variant arm (← readArm arms arm.toNat arm arms.length)
  | unsupported construct => throw (.unsupported construct)

def readFields : List Layout → Reader (List Datum)
  | [] => return []
  | field :: rest => do
    let first ← field.read
    return first :: (← readFields rest)

/-- The `i`-th of the arms that are left; `arm` and `count` say what was asked of how many. -/
def readArm : List Layout → (i : Nat) → (arm : UInt32) → (count : Nat) → Reader Datum
  | [], _, arm, count => throw (.unknownArm arm count)
  | layout :: _, 0, _, _ => layout.read
  | _ :: rest, i + 1, arm, count => readArm rest i arm count

end

end Layout

end GuestInventory.Xdr
