import GuestInventory.CommandLine
import GuestInventory.Log.Filter

/-!
A whole run of the program: from the arguments and the host to the exit status and what is
written. Standard output gets the whole document or nothing.
-/
namespace GuestInventory

structure Report where
  exit : Nat
  stdout : String
  stderr : String
  /-- The frames sent, if a socket was reached. -/
  sent : Option (Array Bytes) := none

namespace Program

def indented (first later : String) (text : String) : String :=
  first ++ ("\n" ++ later).intercalate (text.splitOn "\n")

/-- Numbers are set right in five columns. -/
def numbered (n : Nat) (cause : String) : String :=
  let digits := toString n
  let blank := String.ofList (List.replicate (5 - digits.length) ' ')
  indented (blank ++ digits ++ ": ") "       " cause

/-- The causes beneath an error: one is only set in, several are numbered. -/
def causeLines : List String → List String
  | [] => []
  | [cause] => ["", "Caused by:", indented "    " "    " cause]
  | causes => "" :: "Caused by:" :: causes.zipIdx.map fun (cause, n) => numbered n cause

def fatalLines (e : Survey.Error) : List String :=
  ("Error: " ++ e.message) :: causeLines e.causes

def unlines (lines : List String) : String := String.join (lines.map (· ++ "\n"))

/-- A finished document, or the error that ended the run. -/
def report (filter : Log.Filter) (journal : Log.Journal) (sent : Option (Array Bytes)) :
    Except Survey.Error Inventory → Report
  | .ok inventory =>
    { exit := 0, stdout := inventory.text ++ "\n", stderr := unlines (journal.lines filter), sent }
  | .error e =>
    { exit := 1, stdout := "", stderr := unlines (journal.lines filter ++ fatalLines e), sent }

/-- Asked for one host there is nothing to say: the variables are on the groups. -/
def execute (cmd : CommandLine) (host : Remote.Host) (filter : Log.Filter) : Report :=
  match cmd.host with
  | some name => report filter #[.event (.hostAsked name)] none (.ok .empty)
  | none =>
    let run := Survey.generate (Survey.wireConnector host cmd.uri) cmd.user
    report filter (#[.event (.listing cmd.list cmd.uri)] ++ run.journal) run.sent run.result

/-- Help is what was asked for; any other usage text is a complaint. -/
def usageReport (e : UsageError) : Report :=
  let text := unlines [e.message, "", CommandLine.usage]
  if e = .helpWanted then { exit := e.exitStatus, stdout := text, stderr := "" }
  else { exit := e.exitStatus, stdout := "", stderr := text }

def run (args : List String) (host : Remote.Host) (filter : Log.Filter) : Report :=
  match CommandLine.parse args with
  | .error e => usageReport e
  | .ok cmd => execute cmd host filter

end Program

end GuestInventory
