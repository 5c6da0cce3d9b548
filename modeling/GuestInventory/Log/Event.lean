import GuestInventory.Survey.Error

/-!
What is worth recording during a run: events, each with a level, the part of the program it comes
from, a message and named values. A journal keeps them in order, together with the one notice that
is written whatever the log shows.
-/
namespace GuestInventory.Log

inductive Level
  | error
  | warn
  | info
  | debug
  | trace
  deriving DecidableEq

namespace Level

def name : Level → String
  | error => "ERROR"
  | warn => "WARN"
  | info => "INFO"
  | debug => "DEBUG"
  | trace => "TRACE"

/-- The finer a level, the higher its rank. -/
def rank : Level → Nat
  | error => 1
  | warn => 2
  | info => 3
  | debug => 4
  | trace => 5

end Level

inductive Value
  | text (s : String)
  | texts (items : List String)
  | number (n : Int)
  | flag (b : Bool)

def Value.shown : Value → String
  | text s => s
  | texts items => Quoted.quoteAll items
  | number n => toString n
  | flag b => if b then "true" else "false"

inductive Event
  | call (procedure : Remote.Procedure) (serial : UInt32)
  | skippedMessage (procedure : UInt32)
  | opened (uri : String)
  | addingGroup (domain : String) (uuid : Uuid) (id : Int32) (hosts : List String)
  | noLease (domain : String) (id : Int32)
  | unavailable (cause : Survey.Error)
  | closeFailed (cause : Survey.Error)
  | listing (explicit : Bool) (uri : String)
  | hostAsked (host : String)
  deriving DecidableEq

namespace Event

def level : Event → Level
  | call _ _ => .trace
  | closeFailed _ => .warn
  | _ => .debug

def target : Event → String
  | call _ _ | skippedMessage _ => "virt_remote::connection"
  | opened _ => "virt_remote"
  | addingGroup _ _ _ _ | noLease _ _ | unavailable _ | closeFailed _ =>
    "virt_inventory::snapshot"
  | listing _ _ | hostAsked _ => "libvirt_inventory"

def message : Event → String
  | call _ _ => "rpc call"
  | skippedMessage _ => "skipping event message"
  | opened _ => "libvirt connection opened"
  | addingGroup _ _ _ _ => "adding group"
  | noLease _ _ => "no IPv4 lease, skipping"
  | unavailable _ => "libvirt unavailable, emitting empty inventory"
  | closeFailed _ => "failed to close libvirt connection"
  | listing _ _ => "listing inventory"
  | hostAsked _ => "host vars are carried by the groups"

def values : Event → List (String × Value)
  | call procedure serial =>
    [("procedure", .text procedure.name), ("serial", .number serial.toNat)]
  | skippedMessage procedure => [("procedure", .number procedure.toNat)]
  | opened uri => [("uri", .text uri)]
  | addingGroup domain uuid id hosts =>
    [("domain", .text domain), ("uuid", .text uuid.text), ("id", .number id.toInt),
      ("hosts", .texts hosts)]
  | noLease domain id => [("domain", .text domain), ("id", .number id.toInt)]
  | unavailable cause => [("error", .text cause.message)]
  | closeFailed cause => [("error", .text cause.message)]
  | listing explicit uri => [("explicit", .flag explicit), ("uri", .text uri)]
  | hostAsked host => [("host", .text host)]

/-- One line of log output, without a time. -/
def line (e : Event) : String :=
  e.values.foldl (fun text (name, value) => text ++ " " ++ name ++ "=" ++ value.shown)
    (e.level.name ++ " " ++ e.target ++ ": " ++ e.message)

end Event

inductive Entry
  | event (e : Event)
  /-- No session could be opened at this place. -/
  | unopened (uri : String)
  deriving DecidableEq

abbrev Journal := Array Entry

def Journal.events (j : Journal) : List Event :=
  j.toList.filterMap fun
    | .event e => some e
    | .unopened _ => none

end GuestInventory.Log
