import GuestInventory.Program
import GuestInventory.Remote.Relay

/-!
The program itself. Whoever starts it connects the daemon's socket: what the daemon writes is read
from descriptor 3, and frames for it go to descriptor 4. Without them no socket can be reached.
-/
namespace GuestInventory.Program

/-- The socket that the arguments ask for, if they ask for one. -/
def wantedSocket (args : List String) (host : Remote.Host) : Option String :=
  match CommandLine.parse args with
  | .ok cmd => (Remote.Endpoint.ofUri? cmd.uri).map host.socketPath
  | .error _ => none

def openHandle? (path : String) (mode : IO.FS.Mode) : IO (Option IO.FS.Handle) := do
  try
    return some (← IO.FS.Handle.mk path mode)
  catch _ => return none

/-- Hands over the frames that are due and hears more, until every frame has its answer or the
daemon has nothing more to say. -/
partial def converse (hear : IO ByteArray) (tell : Bytes → IO Unit) (report : Bytes → Report)
    (heard : ByteArray) (told : Nat) : IO Report := do
  let bytes := heard.data.toList
  let r := report bytes
  let frames := r.sent.getD #[]
  let due := Remote.Relay.due bytes frames
  for frame in due.toList.drop told do tell frame
  if frames.size < Remote.Relay.answered { unread := bytes } + 1 then return r
  let more ← hear
  if more.isEmpty then
    for frame in frames.toList.drop due.size do tell frame
    return r
  converse hear tell report (heard ++ more) due.size

def runOn (args : List String) (host : Remote.Host) (filter : Log.Filter) : IO Report := do
  let input ← openHandle? "/dev/fd/3" .read
  let output ← openHandle? "/dev/fd/4" .write
  match wantedSocket args host, input, output with
  | some path, some input, some output =>
    let tell (frame : Bytes) : IO Unit := do
      output.write ⟨frame.toArray⟩
      output.flush
    let report (heard : Bytes) := run args { host with sockets := [(path, heard)] } filter
    converse (input.read 65536) tell report ByteArray.empty 0
  | _, _, _ => return run args host filter

end GuestInventory.Program

open GuestInventory in
def main (args : List String) : IO UInt32 := do
  let host : Remote.Host := { runtimeDirectory := ← IO.getEnv "XDG_RUNTIME_DIR" }
  let filter := Log.Filter.ofSetting (← IO.getEnv "RUST_LOG")
  let report ← Program.runOn args host filter
  IO.print report.stdout
  IO.eprint report.stderr
  return UInt32.ofNat report.exit
