import GuestInventory.Json.Value
import GuestInventory.Hex

/-!
Writing JSON over several lines, two spaces for each level. The layout does not depend on how the
characters of a string are written, which is a parameter: `plainChar` escapes what JSON requires
to be escaped, `asciiChar` also everything beyond printable ASCII, as UTF-16 units.
-/
namespace GuestInventory.Json

/-- One UTF-16 unit as an escape. -/
def unitEscape (unit : Nat) : List Char := '\\' :: 'u' :: Hex.fixed 4 unit

/-- The UTF-16 units of a character: one, or a surrogate pair. -/
def utf16 (c : Char) : List Nat :=
  if c.toNat < 0x10000 then [c.toNat]
  else
    let offset := c.toNat - 0x10000
    [0xd800 + offset / 0x400, 0xdc00 + offset % 0x400]

def plainChar (c : Char) : List Char :=
  if c = '"' then ['\\', '"']
  else if c = '\\' then ['\\', '\\']
  else if c = '\x08' then ['\\', 'b']
  else if c = '\t' then ['\\', 't']
  else if c = '\n' then ['\\', 'n']
  else if c = '\x0c' then ['\\', 'f']
  else if c = '\r' then ['\\', 'r']
  else if c.toNat < 0x20 then unitEscape c.toNat
  else [c]

def asciiChar (c : Char) : List Char :=
  if c.toNat < 0x7f then plainChar c else (utf16 c).flatMap unitEscape

def quoted (writeChar : Char → List Char) (s : String) : List Char :=
  '"' :: (s.toList.flatMap writeChar ++ ['"'])

def newline (depth : Nat) : List Char := '\n' :: List.replicate (2 * depth) ' '

mutual

/-- A value that starts at `depth` levels of indentation. -/
def write (writeChar : Char → List Char) (depth : Nat) : Value → List Char
  | .string s => quoted writeChar s
  | .array [] => ['[', ']']
  | .array (item :: rest) =>
    '[' :: (newline (depth + 1) ++ (write writeChar (depth + 1) item ++
      (writeItems writeChar (depth + 1) rest ++ (newline depth ++ [']']))))
  | .object [] => ['\x7b', '\x7d']
  | .object (member :: rest) =>
    '\x7b' :: (newline (depth + 1) ++ (writeMember writeChar (depth + 1) member ++
      (writeMembers writeChar (depth + 1) rest ++ (newline depth ++ ['\x7d']))))

/-- Items after the first, each on its line after a comma. -/
def writeItems (writeChar : Char → List Char) (depth : Nat) : List Value → List Char
  | [] => []
  | item :: rest =>
    ',' :: (newline depth ++ (write writeChar depth item ++ writeItems writeChar depth rest))

def writeMember (writeChar : Char → List Char) (depth : Nat) : String × Value → List Char
  | (name, value) => quoted writeChar name ++ (':' :: ' ' :: write writeChar depth value)

def writeMembers (writeChar : Char → List Char) (depth : Nat) :
    List (String × Value) → List Char
  | [] => []
  | member :: rest =>
    ',' :: (newline depth ++
      (writeMember writeChar depth member ++ writeMembers writeChar depth rest))

end

def ascii (v : Value) : String := String.ofList (write asciiChar 0 v)

def plain (v : Value) : String := String.ofList (write plainChar 0 v)

end GuestInventory.Json
