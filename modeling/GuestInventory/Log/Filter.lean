import GuestInventory.Log.Event

/-!
Which events are shown. A filter is a list of directives; of those whose target begins an event's
target, the longest says up to which level events are shown, and none means not at all.
-/
namespace GuestInventory.Log

structure Directive where
  /-- Empty for every target. -/
  target : List Char
  /-- Rank of the finest level shown. -/
  ceiling : Nat

structure Filter where
  directives : List Directive

namespace Filter

def warnings : Filter := ⟨[⟨[], Level.warn.rank⟩]⟩

/-- The rank that a level's name stands for, and zero for showing nothing. -/
def rank? (name : String) : Option Nat :=
  ["off", "error", "warn", "info", "debug", "trace"].findIdx? (· = name.toLower)

/-- A level, a target with a level, or a target alone, which shows all of its events. -/
def directive? (text : String) : Option Directive :=
  match text.splitOn "=" with
  | [word] =>
    match rank? word with
    | some ceiling => some ⟨[], ceiling⟩
    | none => some ⟨word.toList, Level.trace.rank⟩
  | [target, level] => (rank? level).map fun ceiling => ⟨target.toList, ceiling⟩
  | _ => none

/-- Reads directives between commas; with none at all, only errors are shown. -/
def parse? (text : String) : Option Filter :=
  match (text.splitOn ",").filter (· ≠ "") with
  | [] => some ⟨[⟨[], Level.error.rank⟩]⟩
  | parts => (parts.mapM directive?).map Filter.mk

def ofSetting (setting : Option String) : Filter := (setting.bind parse?).getD warnings

/-- The directive in force for a target: of equally long ones, the last. -/
def inForce (f : Filter) (target : String) : Option Directive :=
  (f.directives.filter fun d => d.target.isPrefixOf target.toList).foldl
    (fun best d =>
      match best with
      | some b => if d.target.length < b.target.length then some b else some d
      | none => some d)
    none

def shows (f : Filter) (e : Event) : Bool :=
  match f.inForce e.target with
  | some d => e.level.rank ≤ d.ceiling
  | none => false

end Filter

/-- The lines that a journal leaves on the diagnostic stream. -/
def Journal.lines (j : Journal) (f : Filter) : List String :=
  j.toList.filterMap fun
    | .event e => if f.shows e then some e.line else none
    | .unopened uri => some ("Failed to open connection to " ++ uri)

end GuestInventory.Log
