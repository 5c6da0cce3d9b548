import GuestInventory.Xdr.Reader

/-!
Arrays with a maximum. Items come from a supply, which may announce how many it holds: an
announcement above the maximum is refused before any item is taken, and without one the first
item too many is refused when it turns up.
-/
namespace GuestInventory.Xdr

/-- Items one by one, until there are no more. -/
structure Supply (σ α : Type) where
  announced : Option Nat
  next : EStateM Error σ (Option α)

namespace Supply

/-- Takes items while there is room for them. -/
def drain (s : Supply σ α) (maximum : Nat) : (room : Nat) → List α → EStateM Error σ (List α)
  | 0, taken => do
    match ← s.next with
    | none => return taken.reverse
    | some _ => throw (.arrayTooLong (maximum + 1) maximum)
  | room + 1, taken => do
    match ← s.next with
    | none => return taken.reverse
    | some a => s.drain maximum room (a :: taken)

def atMost (s : Supply σ α) (maximum : Nat) : EStateM Error σ (List α) := do
  let announced := s.announced.getD 0
  if maximum < announced then throw (.arrayTooLong announced maximum)
  s.drain maximum maximum []

/-- The items of a list, whose number is not told ahead. -/
def ofList : Supply (List α) α where
  announced := none
  next := fun items =>
    match items with
    | [] => .ok none []
    | a :: rest => .ok (some a) rest

/-- Counted items on the wire: the state is the unread bytes and the number of items to come. -/
def counted (count : Nat) (item : Reader α) : Supply (Bytes × Nat) α where
  announced := some count
  next := fun (unread, left) =>
    match left with
    | 0 => .ok none (unread, 0)
    | left + 1 =>
      match item unread with
      | .ok a rest => .ok (some a) (rest, left)
      | .error e rest => .error e (rest, left)

end Supply

def Reader.boundedArray (maximum : Nat) (item : Reader α) : Reader (List α) := do
  let count := (← word).toNat
  fun unread =>
    match (Supply.counted count item).atMost maximum (unread, count) with
    | .ok items (rest, _) => .ok items rest
    | .error e (rest, _) => .error e rest

end GuestInventory.Xdr
