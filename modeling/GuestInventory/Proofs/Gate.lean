import GuestInventory.Proofs.Calls
import GuestInventory.Proofs.Messages
import GuestInventory.Remote.Session

/-!
The gate before a session. Of the two questions that authentication may ask, the first tells which
schemes are on offer and the second whether polkit lets the caller in. The caller is let in or kept
out by their answers, and by nothing else.
-/
namespace GuestInventory.Remote

open Xdr (Datum)

def SchemeList.Free (l : SchemeList) : Prop := l.schemes = [] ∨ .none ∈ l.schemes

namespace Session

open Connection

def asking (procedure : Procedure) (n : UInt32) : Bytes :=
  (Packet.call procedure.number n []).frame

theorem encode_void : Datum.void.encode = .ok [] := Datum.plain_void.encode

/-- The answers that let the caller in, the frames of the questions, and the connection on which
the session may then be opened. -/
inductive LetIn (c : Connection) : List Bytes → Connection → Prop
  | free {l : SchemeList} {c' : Connection}
      (hlist : request .authList .void SchemeList.read c = .ok l c') (hl : l.Free) :
      LetIn c [asking .authList c.serial] c'
  | polkit {l : SchemeList} {o : PolkitOutcome} {c' c'' : Connection}
      (hlist : request .authList .void SchemeList.read c = .ok l c') (hl : ¬ l.Free)
      (hpolkit : .polkit ∈ l.schemes)
      (houtcome : request .authPolkit .void PolkitOutcome.read c' = .ok o c'')
      (ho : o.complete ≠ 0) :
      LetIn c [asking .authList c.serial, asking .authPolkit (c.serial + 1)] c''

/-- The failures that keep the caller out, each with the connection as the last question leaves
it. -/
inductive KeptOut (c : Connection) : Error → Connection → Prop
  | unlisted {e : Error} {c' : Connection}
      (hlist : request .authList .void SchemeList.read c = .error e c') : KeptOut c e c'
  | noScheme {l : SchemeList} {c' : Connection}
      (hlist : request .authList .void SchemeList.read c = .ok l c') (hl : ¬ l.Free)
      (hpolkit : .polkit ∉ l.schemes) : KeptOut c (.noScheme l.schemes) c'
  | unanswered {l : SchemeList} {e : Error} {c' c'' : Connection}
      (hlist : request .authList .void SchemeList.read c = .ok l c') (hl : ¬ l.Free)
      (hpolkit : .polkit ∈ l.schemes)
      (houtcome : request .authPolkit .void PolkitOutcome.read c' = .error e c'') :
      KeptOut c e c''
  | incomplete {l : SchemeList} {o : PolkitOutcome} {c' c'' : Connection}
      (hlist : request .authList .void SchemeList.read c = .ok l c') (hl : ¬ l.Free)
      (hpolkit : .polkit ∈ l.schemes)
      (houtcome : request .authPolkit .void PolkitOutcome.read c' = .ok o c'')
      (ho : o.complete = 0) : KeptOut c .polkitIncomplete c''

variable {c c' : Connection} {l : SchemeList}

theorem authenticate_of_free (hlist : request .authList .void SchemeList.read c = .ok l c')
    (hl : l.Free) : authenticate c = .ok () c' := by
  have hfree : (l.schemes.isEmpty || l.schemes.contains .none) = true := by
    simpa [SchemeList.Free] using hl
  simp only [authenticate, Bind.bind, EStateM.bind, hlist, hfree, if_true]
  rfl

theorem authenticate_of_noScheme (hlist : request .authList .void SchemeList.read c = .ok l c')
    (hl : ¬ l.Free) (hpolkit : .polkit ∉ l.schemes) :
    authenticate c = .error (.noScheme l.schemes) c' := by
  have hfree : ¬ (l.schemes.isEmpty || l.schemes.contains .none) = true := by
    simpa [SchemeList.Free] using hl
  have hoffered : ¬ l.schemes.contains .polkit = true := by simpa using hpolkit
  simp only [authenticate, Bind.bind, EStateM.bind, hlist, if_neg hfree, if_neg hoffered]
  rfl

/-- If polkit is called for, its outcome decides. -/
theorem authenticate_of_polkit (hlist : request .authList .void SchemeList.read c = .ok l c')
    (hl : ¬ l.Free) (hpolkit : .polkit ∈ l.schemes) :
    authenticate c =
      match request .authPolkit .void PolkitOutcome.read c' with
      | .error e c'' => .error e c''
      | .ok o c'' => if o.complete = 0 then .error .polkitIncomplete c'' else .ok () c'' := by
  have hfree : ¬ (l.schemes.isEmpty || l.schemes.contains .none) = true := by
    simpa [SchemeList.Free] using hl
  have hoffered : l.schemes.contains .polkit = true := by simpa using hpolkit
  simp only [authenticate, Bind.bind, EStateM.bind, hlist, if_neg hfree, if_pos hoffered]
  cases request .authPolkit .void PolkitOutcome.read c' with
  | error e c'' => rfl
  | ok o c'' =>
    dsimp only
    by_cases ho : o.complete = 0
    · rw [if_pos ho, if_pos ho]
      rfl
    · rw [if_neg ho, if_neg ho]
      rfl

/-- The answers that let the caller in let authentication pass. -/
theorem LetIn.authenticate_eq {before : List Bytes} (h : LetIn c before c') :
    authenticate c = .ok () c' := by
  cases h with
  | free hlist hl => exact authenticate_of_free hlist hl
  | polkit hlist hl hpolkit houtcome ho =>
    rw [authenticate_of_polkit hlist hl hpolkit, houtcome]
    exact if_neg ho

/-- A failure that keeps the caller out is the one that authentication ends with. -/
theorem KeptOut.authenticate_eq {e : Error} (h : KeptOut c e c') :
    authenticate c = .error e c' := by
  cases h with
  | unlisted hlist => simp only [authenticate, Bind.bind, EStateM.bind, hlist]
  | noScheme hlist hl hpolkit => exact authenticate_of_noScheme hlist hl hpolkit
  | unanswered hlist hl hpolkit houtcome =>
    rw [authenticate_of_polkit hlist hl hpolkit, houtcome]
  | incomplete hlist hl hpolkit houtcome ho =>
    rw [authenticate_of_polkit hlist hl hpolkit, houtcome]
    exact if_pos ho

/-- Whatever the daemon writes, the caller is let in or kept out. -/
theorem letIn_or_keptOut (c : Connection) :
    (∃ before c', LetIn c before c') ∨ ∃ e c', KeptOut c e c' := by
  cases hlist : request .authList .void SchemeList.read c with
  | error e c' => exact Or.inr ⟨e, c', .unlisted hlist⟩
  | ok l c' =>
    by_cases hl : l.Free
    · exact Or.inl ⟨_, c', .free hlist hl⟩
    by_cases hpolkit : .polkit ∈ l.schemes
    · cases houtcome : request .authPolkit .void PolkitOutcome.read c' with
      | error e c'' => exact Or.inr ⟨e, c'', .unanswered hlist hl hpolkit houtcome⟩
      | ok o c'' =>
        by_cases ho : o.complete = 0
        · exact Or.inr ⟨_, c'', .incomplete hlist hl hpolkit houtcome ho⟩
        · exact Or.inl ⟨_, c'', .polkit hlist hl hpolkit houtcome ho⟩
    · exact Or.inr ⟨_, c', .noScheme hlist hl hpolkit⟩

end Session

end GuestInventory.Remote
