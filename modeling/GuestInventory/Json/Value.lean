/-!
JSON values as far as documents of this program need them: strings, arrays and objects whose
members keep their order.
-/
namespace GuestInventory.Json

inductive Value
  | string (s : String)
  | array (items : List Value)
  | object (members : List (String × Value))

end GuestInventory.Json
