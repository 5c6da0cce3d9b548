import GuestInventory.Hex
import GuestInventory.Text.Unseen

/-!
Text between double quotes, as diagnostics and log lines show it. Quotes, backslashes and the four
common controls get a short escape; other characters that leave no mark of their own on the line
are written by number; everything else stands for itself.
-/
namespace GuestInventory.Quoted

def escapeChar (c : Char) : String :=
  match c with
  | '"' => "\\\""
  | '\\' => "\\\\"
  | '\n' => "\\n"
  | '\r' => "\\r"
  | '\t' => "\\t"
  | '\x00' => "\\0"
  | c => if isUnseen c then "\\u\x7b" ++ Hex.ofNat c.toNat ++ "\x7d" else c.toString

def quote (s : String) : String :=
  "\"" ++ String.join (s.toList.map escapeChar) ++ "\""

/-- A list in brackets, its texts quoted. -/
def quoteAll (texts : List String) : String :=
  "[" ++ ", ".intercalate (texts.map quote) ++ "]"

end GuestInventory.Quoted
