import GuestInventory.Text.Quoted

/-!
Why data could not be written or read, and the text that says so.
-/
namespace GuestInventory.Xdr

/-- Length limit of a string or of a byte string. -/
def stringMaximum : Nat := 4194304

/-- Constructs that the format has no form for. -/
inductive Construct
  | map
  | unsizedArray
  | selfDescribing
  | skipped
  | int128
  | uint128
  deriving DecidableEq, Repr

def Construct.refusal : Construct → String
  | map => "map is not representable in XDR"
  | unsizedArray => "sequence of unknown length is not representable in XDR"
  | selfDescribing => "self-describing value is not representable in XDR"
  | skipped => "skipped value is not representable in XDR"
  | int128 => "i128 is not supported"
  | uint128 => "u128 is not supported"

/-- What a source other than the wire may offer where sixteen bytes of opaque data are due. -/
inductive Offer
  | bytes (data : Bytes)
  | text (s : String)
  | integer (n : Int)
  deriving DecidableEq, Repr

def Offer.complaint : Offer → String
  | bytes data => s!"invalid length {data.length}"
  | text s => "invalid type: string " ++ Quoted.quote s
  | integer n => s!"invalid type: integer `{n}`"

inductive Error
  | endOfInput
  | invalidBool (word : UInt32)
  | invalidOptional (word : UInt32)
  | invalidChar (word : UInt32)
  | invalidUtf8
  | stringTooLong (length : Nat)
  | arrayTooLong (length maximum : Nat)
  | unknownArm (word : UInt32) (arms : Nat)
  | unsupported (construct : Construct)
  | notSixteenBytes (offer : Offer)
  deriving DecidableEq, Repr

def Error.message : Error → String
  | endOfInput => "unexpected end of input"
  | invalidBool word => s!"invalid boolean value: {word}"
  | invalidOptional word => s!"invalid optional discriminant: {word}"
  | invalidChar word => s!"invalid char: {word}"
  | invalidUtf8 => "invalid UTF-8 string"
  | stringTooLong length => s!"string length {length} exceeds maximum {stringMaximum}"
  | arrayTooLong length maximum =>
    s!"invalid length {length}, expected an array of at most {maximum} elements"
  | unknownArm word arms =>
    s!"invalid value: integer `{word}`, expected variant index 0 <= i < {arms}"
  | unsupported construct => construct.refusal
  | notSixteenBytes offer => offer.complaint ++ ", expected 16 bytes of opaque data"

end GuestInventory.Xdr
