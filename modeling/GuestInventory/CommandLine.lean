import GuestInventory.Survey.Wire

/-!
The arguments of the program: `--list` and `--help`, which take no value, and `--host`, `--uri`
and `--user`, which take one, after an equals sign or as the next argument. A value in the next
argument is settled only when another known option comes or the arguments end; what is wrong with
it, or that it is missing, comes to light then.
-/
namespace GuestInventory

/-- Why arguments are not accepted, and the request for help. -/
inductive UsageError
  | unknownArgument
  | argumentConflict
  | invalidValue
  | tooManyValues
  | helpWanted
  deriving DecidableEq, Repr

def UsageError.exitStatus : UsageError → Nat
  | helpWanted => 0
  | _ => 2

def UsageError.message : UsageError → String
  | unknownArgument => "error: unexpected argument"
  | argumentConflict => "error: an argument cannot be used with another, or more than once"
  | invalidValue => "error: a value is required and none was given"
  | tooManyValues => "error: a value was given and none is allowed"
  | helpWanted => "Ansible dynamic inventory of running libvirt domains."

structure CommandLine where
  list : Bool
  host : Option String
  uri : String
  user : String
  deriving DecidableEq

namespace CommandLine

def usage : String :=
  "Usage: libvirt-inventory [--list | --host NAME] [--uri URI] [--user USER]"

/-- Options that take a value. -/
inductive Setting
  | host
  | uri
  | user
  deriving DecidableEq

/-- What the arguments seen so far have settled. -/
structure Progress where
  list : Bool := false
  host : Option String := none
  uri : Option String := none
  user : Option String := none
  /-- The option that was named without a value of its own, and the value if it has come. -/
  due : Option (Setting × Option String) := none

namespace Progress

def value (p : Progress) : Setting → Option String
  | .host => p.host
  | .uri => p.uri
  | .user => p.user

def assign (p : Progress) (s : Setting) (value : String) : Progress :=
  match s with
  | .host => { p with host := some value }
  | .uri => { p with uri := some value }
  | .user => { p with user := some value }

/-- Each option has one value. -/
def store (p : Progress) (s : Setting) (value : String) : Except UsageError Progress :=
  match p.value s with
  | none => .ok (p.assign s value)
  | some _ => .error .argumentConflict

def settle (p : Progress) : Except UsageError Progress :=
  match p.due with
  | none => .ok p
  | some (_, none) => .error .invalidValue
  | some (s, some value) => { p with due := none }.store s value

end Progress

/-- What one argument is. -/
inductive Argument
  | list
  | help
  | setting (s : Setting)
  | assignment (s : Setting) (value : String)
  /-- A value given to an option that takes none. -/
  | excess
  | unknown
  /-- The mark after which no options come. -/
  | terminator
  | plain (value : String)

/-- The name up to the first equals sign, and what follows it if there is one. -/
def splitValue (cs : List Char) : String × Option String :=
  let name := String.ofList (cs.takeWhile (· ≠ '='))
  match cs.dropWhile (· ≠ '=') with
  | [] => (name, none)
  | _ :: value => (name, some (String.ofList value))

def classifyLong (cs : List Char) : Argument :=
  match splitValue cs with
  | ("list", none) => .list
  | ("help", none) => .help
  | ("list", some _) | ("help", some _) => .excess
  | ("host", none) => .setting .host
  | ("uri", none) => .setting .uri
  | ("user", none) => .setting .user
  | ("host", some value) => .assignment .host value
  | ("uri", some value) => .assignment .uri value
  | ("user", some value) => .assignment .user value
  | _ => .unknown

def classify (arg : String) : Argument :=
  match arg.toList with
  | ['-', '-'] => .terminator
  | '-' :: '-' :: cs => classifyLong cs
  | '-' :: 'h' :: _ => .help
  | '-' :: _ :: _ => .unknown
  | _ => .plain arg

open Progress in
/-- An argument that is no terminator. -/
def step (p : Progress) : Argument → Except UsageError Progress
  | .list => do
    let p ← p.settle
    if p.list then throw .argumentConflict
    return { p with list := true }
  | .help => do
    let _ ← p.settle
    throw .helpWanted
  | .setting s => do
    let p ← p.settle
    return { p with due := some (s, none) }
  | .assignment s value => do
    let p ← p.settle
    p.store s value
  | .excess => throw .tooManyValues
  | .plain value =>
    match p.due with
    | some (s, none) => return { p with due := some (s, some value) }
    | _ => throw .unknownArgument
  | .unknown | .terminator => throw .unknownArgument

def finish (p : Progress) : Except UsageError CommandLine := do
  let p ← p.settle
  if p.list && p.host.isSome then throw .argumentConflict
  return { list := p.list, host := p.host, uri := p.uri.getD Survey.defaultUri,
           user := p.user.getD defaultUser }

/-- Nothing may follow a terminator. -/
def parseFrom (p : Progress) : List String → Except UsageError CommandLine
  | [] => finish p
  | arg :: rest =>
    match classify arg with
    | .terminator => if rest.isEmpty then finish p else .error .unknownArgument
    | argument => do
      let p ← step p argument
      parseFrom p rest

def parse (args : List String) : Except UsageError CommandLine := parseFrom {} args

end CommandLine

end GuestInventory
