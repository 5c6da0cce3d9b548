import GuestInventory.Program
import GuestInventory.Proofs.Passes
import GuestInventory.Survey.Roster

/-!
How a run ends, over any connector. A session that cannot be opened is not used at all, and the
inventory is empty. One that is open gets the calls of one pass and then a single call to close,
which has no say in the result. So the program prints a whole document or nothing.
-/
namespace GuestInventory.Survey

variable {φ σ : Type}

def Connector.traced (connector : Connector φ σ) : Connector φ (σ × Array Call) where
  uri := connector.uri
  connect := connector.connect.map fun s => (s, #[])
  session := connector.session.traced
  noteFailure := connector.noteFailure

def Connector.onto (connector : Connector φ σ) (session : Hypervisor σ) : Connector φ σ :=
  { connector with session }

def Hypervisor.closedBy (hv : Hypervisor σ) (close : EStateM Error σ Unit) : Hypervisor σ :=
  { hv with close }

/-- A visit never closes, not even when it fails. -/
theorem Fails.close_not_mem {hv : Hypervisor σ} {id : Int32} {s last : σ} {made : List Call}
    {e : Error} (h : Fails hv id s made e last) : Call.close ∉ made := by
  cases h <;> simp

theorem close_not_mem_calls (guests : List Guest) : Call.close ∉ guests.flatMap Guest.calls := by
  simp [Guest.calls]

/-- A pass leaves the session open. -/
theorem Pass.close_not_mem {hv : Hypervisor σ} {s last : σ} {made : List Call}
    {outcome : Except Error (List Guest)} (h : Pass hv s made outcome last) :
    Call.close ∉ made := by
  cases h with
  | unlisted => simp
  | brokenOff _ _ hfails =>
    simp only [List.mem_cons, List.mem_append, reduceCtorEq, false_or, not_or]
    exact ⟨close_not_mem_calls _, hfails.close_not_mem⟩
  | complete =>
    simp only [List.mem_cons, reduceCtorEq, false_or]
    exact close_not_mem_calls _

/-- Closing is one call, whatever comes of it. -/
theorem closeQuietly_traced (hv : Hypervisor σ) (s : σ) (calls : Array Call) :
    closeQuietly hv.traced (s, calls) = (closeQuietly hv s, calls.push .close) := by
  simp only [closeQuietly, Hypervisor.traced, Hypervisor.recording]
  cases hv.close s <;> rfl

/-- Without a session there is nothing to survey and nothing to close. -/
theorem generate_of_error (connector : Connector φ σ) {cause : Error} {attempt : φ}
    (h : connector.connect = .error (cause, attempt)) (user : String) :
    generate connector user =
      ⟨.ok .empty, .inl (connector.noteFailure (.event (.unavailable cause))
        (connector.noteFailure (.unopened connector.uri) attempt))⟩ := by
  simp only [generate, h]

theorem generate_of_ok (connector : Connector φ σ) {s last : σ}
    {result : Except Error Inventory} (h : connector.connect = .ok s) (user : String)
    (hcollect : ending (collect connector.session user) s = (result, last)) :
    generate connector user = ⟨result, .inr (closeQuietly connector.session last)⟩ := by
  simp only [generate, h, hcollect]

theorem visitAll_closedBy (hv : Hypervisor σ) (close : EStateM Error σ Unit) (user : String)
    (inventory : Inventory) (ids : List Int32) :
    visitAll (hv.closedBy close) user inventory ids = visitAll hv user inventory ids := by
  induction ids generalizing inventory with
  | nil => rfl
  | cons id ids ih =>
    simp only [visitAll, ih]
    rfl

theorem collect_closedBy (hv : Hypervisor σ) (close : EStateM Error σ Unit) (user : String) :
    collect (hv.closedBy close) user = collect hv user := by
  simp only [collect, visitAll_closedBy]
  rfl

/-- A run closes what it opened exactly once, and nothing else. -/
structure ClosesOnce (connector : Connector φ σ) (user : String) : Prop where
  /-- Without a session nothing is asked of one, so that another would have made no difference. -/
  unopened : ∀ cause attempt, connector.connect = .error (cause, attempt) →
    ∃ left, ∀ session, generate (connector.onto session) user = ⟨.ok .empty, .inl left⟩
  /-- An open session gets the calls of the pass and one more, and the run has the result of the
  pass, whatever closing does and comes to. -/
  opened : ∀ s, connector.connect = .ok s → ∃ made result last,
    Makes (collect connector.session user) (collect connector.session.traced user) s made result
      last ∧
    Call.close ∉ made ∧
    generate connector user = ⟨result, .inr (closeQuietly connector.session last)⟩ ∧
    generate connector.traced user =
      ⟨result, .inr (closeQuietly connector.session last, (made ++ [Call.close]).toArray)⟩ ∧
    ∀ close, (generate (connector.onto (connector.session.closedBy close)) user).result = result

theorem closesOnce (connector : Connector φ σ) (user : String) : ClosesOnce connector user where
  unopened cause attempt h := by
    refine ⟨connector.noteFailure (.event (.unavailable cause))
      (connector.noteFailure (.unopened connector.uri) attempt), ?_⟩
    intro session
    exact generate_of_error (connector.onto session) h user
  opened s h := by
    obtain ⟨made, outcome, last, hpass⟩ := exists_pass connector.session s
    have hmakes := hpass.makes user
    have hconnect : connector.traced.connect = .ok (s, #[]) := by
      simp only [Connector.traced, h]
      rfl
    have htraced := generate_of_ok connector.traced hconnect user (hmakes.recorded #[])
    have hcalls : (#[] ++ made.toArray).push Call.close = (made ++ [Call.close]).toArray := by simp
    have hclosed : closeQuietly connector.traced.session (last, #[] ++ made.toArray) =
        (closeQuietly connector.session last, (made ++ [Call.close]).toArray) := by
      rw [← hcalls]
      exact closeQuietly_traced connector.session last _
    rw [hclosed] at htraced
    refine ⟨made, _, last, hmakes, hpass.close_not_mem,
      generate_of_ok connector h user hmakes.plain, htraced, ?_⟩
    intro close
    -- Closing comes after the result, and nothing before it closes.
    have hplain : ending (collect (connector.session.closedBy close) user) s =
        (outcome.map (tally user), last) := by
      rw [collect_closedBy]
      exact hmakes.plain
    rw [generate_of_ok (connector.onto (connector.session.closedBy close)) h user hplain]

/-- What is printed: the whole document of what the run comes to, or nothing if the pass over an
open session failed. -/
def Prints (connector : Connector φ σ) (user : String) (report : Report) : Prop :=
  match connector.connect with
  | .error _ => report.stdout = Inventory.empty.text ++ "\n" ∧ report.exit = 0
  | .ok s =>
    match (ending (collect connector.session user) s).1 with
    | .ok inventory => report.stdout = inventory.text ++ "\n" ∧ report.exit = 0
    | .error _ => report.stdout = "" ∧ report.exit = 1

/-- Not asked for a host, the program does one run over the wire and reports its result. -/
theorem prints_run (args : List String) (host : Remote.Host) (filter : Log.Filter)
    (cmd : CommandLine) (hparse : CommandLine.parse args = .ok cmd) (hhost : cmd.host = none) :
    Prints (wireConnector host cmd.uri) cmd.user (Program.run args host filter) := by
  have hrun : Program.run args host filter = Program.execute cmd host filter := by
    simp only [Program.run, hparse]
  rw [hrun, Prints, Program.execute]
  simp only [hhost]
  cases hconnect : (wireConnector host cmd.uri).connect with
  | error refusal =>
    rw [generate_of_error (wireConnector host cmd.uri) hconnect]
    exact ⟨rfl, rfl⟩
  | ok s =>
    dsimp only
    cases hcollect : ending (collect (wireConnector host cmd.uri).session cmd.user) s with
    | mk result last =>
      rw [generate_of_ok (wireConnector host cmd.uri) hconnect cmd.user hcollect]
      cases result with
      | ok inventory => exact ⟨rfl, rfl⟩
      | error e => exact ⟨rfl, rfl⟩

/-- Over any connector an open session is closed by one call, the last, and only the pass before
it decides the result. The program prints that result as a whole or not at all. -/
theorem closed_once_and_printed_whole (connector : Connector φ σ) (user : String) :
    ClosesOnce connector user ∧
      ∀ args host filter cmd, CommandLine.parse args = .ok cmd → cmd.host = none →
        Prints (wireConnector host cmd.uri) cmd.user (Program.run args host filter) :=
  ⟨closesOnce connector user, prints_run⟩

def web : Remote.Domain := { name := "web", uuid := Uuid.zero, id := 7 }

/-- Two domains are listed, but one of them is gone when it is looked up, and closing fails too. -/
def vanished : Roster where
  enrolled := [{ domain := web, leases := .ok [] }]
  ids := .ok [7, 9]
  closeFault := some (.remote .closed)

/-- The failure of the survey is the one that is told, and nothing is printed. -/
theorem closed_once_and_printed_whole_vanished :
    (vanished.connector "/s").connect = .ok (#[], #[]) ∧
    (∃ s, generate (vanished.connector "/s").traced "root" = ⟨.error (Roster.notFound 9), .inr
      (s, #[.activeIds, .lookup 7, .leases web, .lookup 9, .close])⟩) ∧
    CommandLine.parse ["--uri", "x"] = .ok ⟨false, none, "x", defaultUser⟩ ∧
    (Program.run ["--uri", "x"] {} ⟨[]⟩).stdout = "{}\n" := by
  have hconnect : (vanished.connector "/s").connect = .ok (#[], #[]) := rfl
  have hparse : CommandLine.parse ["--uri", "x"] = .ok ⟨false, none, "x", defaultUser⟩ := rfl
  obtain ⟨hcloses, hprints⟩ := closed_once_and_printed_whole (vanished.connector "/s") "root"
  refine ⟨hconnect, ?_, hparse, (hprints ["--uri", "x"] {} ⟨[]⟩ _ hparse rfl).1⟩
  obtain ⟨made, result, last, hmakes, -, -, htraced, -⟩ := hcloses.opened _ hconnect
  obtain ⟨s, hran⟩ : ∃ s, ending (collect (vanished.connector "/s").session.traced "root")
      ((#[], #[]), #[]) =
        (.error (Roster.notFound 9), (s, #[.activeIds, .lookup 7, .leases web, .lookup 9])) :=
    ⟨_, rfl⟩
  have hmade := hran.symm.trans (hmakes.recorded #[])
  obtain ⟨hresult, -, hmade⟩ : _ ∧ _ ∧ _ := by simpa using hmade
  refine ⟨closeQuietly (vanished.connector "/s").session last, ?_⟩
  rw [htraced, ← hresult]
  simp [← hmade]

end GuestInventory.Survey
