import GuestInventory.Remote.Socket

/-!
Which socket a URI stands for, and which sockets a host has. The ending of a URI is looked at
before its beginning, so a path that ends like one of the two default URIs means the default
socket.
-/
namespace GuestInventory.Remote

inductive Endpoint
  | system
  | session
  | path (p : String)
  deriving DecidableEq

/-- What the name of a socket given by its path may begin with. -/
def pathScheme : List Char := "unix://".toList

def hasPathForm (uri : String) : Bool :=
  ['/'].isPrefixOf uri.toList || pathScheme.isPrefixOf uri.toList

namespace Endpoint

def ofUri? (uri : String) : Option Endpoint :=
  if "///system".toList.isSuffixOf uri.toList then some system
  else if "///session".toList.isSuffixOf uri.toList then some session
  else if hasPathForm uri then
    if pathScheme.isPrefixOf uri.toList then
      some (path (String.ofList (uri.toList.drop pathScheme.length)))
    else some (path uri)
  else none

end Endpoint

/-- The name that a session is opened with: socket paths are no names, and leave the daemon its
default. -/
def openedName (uri : String) : Option String := if hasPathForm uri then none else some uri

/-- A host as a session sees it: where sockets are, and what the daemon behind each will write. -/
structure Host where
  runtimeDirectory : Option String := none
  workingDirectory : String := "/"
  sockets : List (String × Bytes) := []
  /-- Directories that are there whether they lead to a socket or not. -/
  directories : List String := []

namespace Host

def steps (path : String) : List String := (path.toList.splitOn '/').map String.ofList

/-- The named steps of an absolute path without detours. -/
def plainSteps (path : String) : List String := (steps path).filter (· ≠ "")

def socketAt (h : Host) (place : List String) : Option Bytes :=
  (h.sockets.find? fun (path, _) => plainSteps path = place).map (·.2)

def isDirectory (h : Host) (place : List String) : Bool :=
  (h.sockets.any fun (path, _) =>
    place.isPrefixOf (plainSteps path) && place.length < (plainSteps path).length) ||
  h.directories.any fun path => place.isPrefixOf (plainSteps path)

/-- Follows a path from a directory. Every step but the last has to end in a directory, and the
last on a socket. -/
def follow (h : Host) : (place : List String) → List String → Except Obstacle Bytes
  | _, [] => .error .notListening
  | place, step :: rest =>
    if step = "" ∨ step = "." then h.follow place rest
    else if step = ".." then h.follow place.dropLast rest
    else
      let next := place ++ [step]
      match h.socketAt next with
      | some unread => if rest.isEmpty then .ok unread else .error .notDirectory
      | none => if h.isDirectory next then h.follow next rest else .error .missing

/-- How many bytes of a path or of an abstract name the address of a socket has room for. -/
def pathMaximum : Nat := 107

/-- The socket at a path, newly connected. What begins with a null byte is no path but the mark of
an abstract name, and no host has a socket under such a name. -/
def reach (h : Host) (path : String) : Except Obstacle Socket :=
  match path.toList with
  | [] => .error .emptyPath
  | '\x00' :: _ =>
    if pathMaximum + 1 < path.utf8ByteSize then .error .nameTooLong else .error .notListening
  | chars =>
    if chars.contains '\x00' then .error .nullByte
    else if pathMaximum < path.utf8ByteSize then .error .pathTooLong
    else do
      let start := if chars.head? = some '/' then [] else plainSteps h.workingDirectory
      return { unread := ← h.follow start (steps path) }

theorem reach_fresh {host : Host} {path : String} {socket : Socket}
    (h : host.reach path = .ok socket) : ∃ unread, socket = { unread } := by
  unfold reach at h
  split at h
  · cases h
  · split at h <;> cases h
  · split at h
    · cases h
    split at h
    · cases h
    · dsimp only [Bind.bind, Except.bind] at h
      split at h
      · cases h
      · cases h
        exact ⟨_, rfl⟩

/-- From the root, a path that has room in the address of a socket is followed step by step. -/
theorem reach_of_root (host : Host) {path : String} (hroot : ['/'] <+: path.toList)
    (hnull : '\x00' ∉ path.toList) (hsize : path.utf8ByteSize ≤ pathMaximum) :
    host.reach path = (host.follow [] (steps path)).map fun unread => { unread } := by
  obtain ⟨rest, hrest⟩ := hroot
  have hcontains : ¬ path.toList.contains '\x00' = true := by simpa using hnull
  have hhead : path.toList.head? = some '/' := by
    rw [← hrest]
    rfl
  unfold reach
  split
  · rename_i hempty
    rw [hempty] at hhead
    cases hhead
  · rename_i habstract
    rw [habstract] at hnull
    exact absurd List.mem_cons_self hnull
  · rw [if_neg hcontains, if_neg (Nat.not_lt.mpr hsize), if_pos hhead]
    dsimp only
    cases host.follow [] (steps path) <;> rfl

/-- A socket on its own, right under the root. -/
theorem reach_single (unread : Bytes) :
    ({ sockets := [("/s", unread)] } : Host).reach "/s" = .ok { unread } := by
  have hsteps : steps "/s" = ["", "s"] := by decide
  have hplaces : plainSteps "/s" = ["s"] := by decide
  rw [reach_of_root _ (by decide) (by decide) (by decide), hsteps]
  simp [follow, socketAt, hplaces, Except.map]

def socketPath (h : Host) : Endpoint → String
  | .system => "/var/run/libvirt/libvirt-sock"
  | .session => h.runtimeDirectory.getD "/tmp" ++ "/libvirt/libvirt-sock"
  | .path p => p

end Host

end GuestInventory.Remote
