import GuestInventory.Proofs.Calls
import GuestInventory.Proofs.Writing

/-!
Talks with a daemon: the calls made over a connection, one after another, each with what came of
it. An action is described by the talks it holds, which are put together as the action is. What
goes out in a talk are the packets of its calls, in order, but for those that are too large.
-/
namespace GuestInventory.Remote

open Xdr (Datum Reader bind_eq_ok)

structure Exchange where
  procedure : Procedure
  payload : Bytes
  outcome : Except Error Bytes

namespace Exchange

inductive Made : Exchange → Connection → Connection → Prop
  | answered {procedure : Procedure} {payload answer : Bytes} {c c' : Connection}
      (h : Connection.call procedure payload c = .ok answer c') :
      Made ⟨procedure, payload, .ok answer⟩ c c'
  | failed {procedure : Procedure} {payload : Bytes} {e : Error} {c c' : Connection}
      (h : Connection.call procedure payload c = .error e c') :
      Made ⟨procedure, payload, .error e⟩ c c'

structure Asks (x : Exchange) (procedure : Procedure) (args : Datum) : Prop where
  procedure_eq : x.procedure = procedure
  payload_eq : args.encode = .ok x.payload

structure Answered (x : Exchange) (procedure : Procedure) (args : Datum) (reply : Reader α)
    (a : α) : Prop extends x.Asks procedure args where
  answer : ∃ data rest, x.outcome = .ok data ∧ reply data = .ok a rest

/-- The call failed, or its answer could not be read. -/
structure Unanswered (x : Exchange) (procedure : Procedure) (args : Datum) (reply : Reader α) :
    Prop extends x.Asks procedure args where
  noAnswer : ∀ data a rest, x.outcome = .ok data → reply data ≠ .ok a rest

inductive JustAnswered (procedure : Procedure) (args : Datum) (reply : Reader α) (a : α) :
    List Exchange → Prop
  | intro {x : Exchange} (hx : x.Answered procedure args reply a) :
      JustAnswered procedure args reply a [x]

inductive JustUnanswered (procedure : Procedure) (args : Datum) (reply : Reader α) :
    List Exchange → Prop
  | intro {x : Exchange} (hx : x.Unanswered procedure args reply) :
      JustUnanswered procedure args reply [x]

def packet (x : Exchange) (n : UInt32) : Packet := Packet.call x.procedure.number n x.payload

theorem Made.eq_after {x : Exchange} {c c' : Connection} (h : x.Made c c') :
    c' = stateAfter (Connection.call x.procedure x.payload c) := by
  cases h with
  | answered h => rw [h, stateAfter]
  | failed h => rw [h, stateAfter]

/-- A call whose packet is too large fails. -/
theorem Made.failed_of_lt {x : Exchange} {c c' : Connection} (h : x.Made c c')
    (hsize : packetMaximum < 28 + x.payload.length) : ∃ e, x.outcome = .error e := by
  cases h with
  | failed h => exact ⟨_, rfl⟩
  | answered h =>
    rw [Connection.call_tooLarge hsize] at h
    cases h

end Exchange

def CloseFree (talk : List Exchange) : Prop := ∀ x ∈ talk, x.procedure ≠ .connectClose

theorem CloseFree.append {talk more : List Exchange} (h : CloseFree talk) (h' : CloseFree more) :
    CloseFree (talk ++ more) :=
  List.forall_mem_append.mpr ⟨h, h'⟩

theorem Exchange.Asks.closeFree {x : Exchange} {procedure : Procedure} {args : Datum}
    (h : x.Asks procedure args) (hprocedure : procedure ≠ .connectClose) : CloseFree [x] := by
  intro y hy
  obtain rfl := List.mem_singleton.mp hy
  rw [h.procedure_eq]
  exact hprocedure

def packets : UInt32 → List Exchange → List Packet
  | _, [] => []
  | n, x :: talk => x.packet n :: packets (n + 1) talk

/-- The frames of a talk: what is too large is not sent. -/
def sentFrames (n : UInt32) (talk : List Exchange) : List Bytes :=
  ((packets n talk).filter fun p => p.size ≤ packetMaximum).map Packet.frame

theorem packets_append (n : UInt32) (talk more : List Exchange) :
    packets n (talk ++ more) = packets n talk ++ packets (n + UInt32.ofNat talk.length) more := by
  induction talk generalizing n with
  | nil => simp [packets]
  | cons x talk ih =>
    simp only [List.cons_append, packets, ih, List.length_cons]
    rw [Nat.add_comm talk.length 1, UInt32.ofNat_add, UInt32.add_assoc]
    rfl

/-- What is said later goes out behind what was said before, under later serials. -/
theorem sentFrames_append (n : UInt32) (talk more : List Exchange) :
    sentFrames n (talk ++ more) =
      sentFrames n talk ++ sentFrames (n + UInt32.ofNat talk.length) more := by
  simp only [sentFrames, packets_append, List.filter_append, List.map_append]

/-- Behind its length word, a frame of a talk is read as its packet. -/
theorem decode_packets (n : UInt32) (talk : List Exchange) :
    ∀ p ∈ packets n talk, Packet.decode (p.frame.drop 4) = .ok p := by
  induction talk generalizing n with
  | nil => exact List.forall_mem_nil _
  | cons x talk ih => exact List.forall_mem_cons.mpr ⟨Packet.decode_body rfl, ih (n + 1)⟩

def asked (talk : List Exchange) : List (Procedure × Bytes) :=
  talk.map fun x => (x.procedure, x.payload)

/-- By induction on the talk: each call has the next serial, whether its frame goes out or not. -/
theorem calledInTurn_sentFrames (n : UInt32) (talk : List Exchange) :
    CalledInTurn n (asked talk) (sentFrames n talk) := by
  induction talk generalizing n with
  | nil => exact .nil n
  | cons x talk ih =>
    by_cases hsize : (x.packet n).size ≤ packetMaximum
    · have hframes : sentFrames n (x :: talk) = (x.packet n).frame :: sentFrames (n + 1) talk := by
        simp [sentFrames, packets, hsize]
      rw [hframes]
      exact .sent (Procedure.calledWith_frame hsize) (ih (n + 1))
    · have hframes : sentFrames n (x :: talk) = sentFrames (n + 1) talk := by
        simp [sentFrames, packets, hsize]
      rw [hframes]
      exact .tooLarge (Nat.lt_of_not_le hsize) (ih (n + 1))

/-- The calls of a talk are made one after another, from one line to another. -/
inductive Held : Line → List Exchange → Line → Prop
  | nil (l : Line) : Held l [] l
  | cons {x : Exchange} {talk : List Exchange} {c c' : Connection} {l : Line}
      (hx : x.Made c c') (htalk : Held c'.line talk l) : Held c.line (x :: talk) l

namespace Held

theorem append {l l' l'' : Line} {talk talk' : List Exchange} (h : Held l talk l')
    (h' : Held l' talk' l'') : Held l (talk ++ talk') l'' := by
  induction h with
  | nil l => exact h'
  | cons hx htalk ih => exact .cons hx (ih h')

theorem one {x : Exchange} {c c' : Connection} (hx : x.Made c c') : Held c.line [x] c'.line :=
  .cons hx (.nil _)

/-- A line that is open stays open, and the frames of the talk go out on it. -/
theorem sent {l l' : Line} {talk : List Exchange} (h : Held l talk l') (hl : l.socket.CanSend) :
    l'.socket.CanSend ∧
      l'.socket.sent = l.socket.sent ++ (sentFrames l.serial talk).toArray := by
  induction h with
  | nil l => exact ⟨hl, by simp [sentFrames, packets]⟩
  | @cons x talk c c' l hx htalk ih =>
    obtain ⟨hserial, hread⟩ := Connection.call_after x.procedure x.payload c
    rw [← hx.eq_after] at hserial hread
    have hposted : (c.posted x.procedure x.payload).CanSend := by
      unfold Connection.posted
      split <;> exact hl
    obtain ⟨hopen, hsent⟩ := ih (hread.canSend hposted)
    refine ⟨hopen, ?_⟩
    have hline : c'.line.serial = c.serial + 1 := hserial
    have hbefore : c'.line.socket.sent = (c.posted x.procedure x.payload).sent := hread.sent_eq
    rw [hsent, hline, hbefore]
    have hpacket : c.outgoing x.procedure x.payload = x.packet c.serial := rfl
    by_cases hsize : (x.packet c.serial).size ≤ packetMaximum
    · rw [Connection.posted, hpacket, if_pos ⟨hsize, hl⟩]
      simp [sentFrames, packets, hsize, Connection.sending, Connection.line]
    · rw [Connection.posted, hpacket, if_neg fun h => hsize h.1]
      simp [sentFrames, packets, hsize, Connection.line]

/-- A call whose packet is too large fails wherever it stands in a talk. -/
theorem failed_of_lt {l l' : Line} {talk : List Exchange} (h : Held l talk l') :
    ∀ x ∈ talk, packetMaximum < 28 + x.payload.length → ∃ e, x.outcome = .error e := by
  induction h with
  | nil l => exact List.forall_mem_nil _
  | cons hx htalk ih => exact List.forall_mem_cons.mpr ⟨hx.failed_of_lt, ih⟩

end Held

/-- Whatever the daemon writes, an action holds a talk of one kind when it succeeds and a talk of
another when it fails. -/
structure Talks (action : EStateM ε Connection α) (passed : α → List Exchange → Prop)
    (failed : List Exchange → Prop) : Prop where
  of_ok : ∀ c a c', action c = .ok a c' → ∃ talk, Held c.line talk c'.line ∧ passed a talk
  of_error : ∀ c e c', action c = .error e c' → ∃ talk, Held c.line talk c'.line ∧ failed talk

namespace Talks

variable {x : EStateM ε Connection α} {passed passed' : α → List Exchange → Prop}
    {failed failed' : List Exchange → Prop}

theorem pure {a : α} (h : passed a []) :
    Talks (Pure.pure a : EStateM ε Connection α) passed failed where
  of_ok c b c' hok := by
    cases hok
    exact ⟨[], .nil _, h⟩
  of_error c e c' herror := by cases herror

/-- What is said after an action adds to what was said before. -/
theorem bind {f : α → EStateM ε Connection β} {passed' : β → List Exchange → Prop}
    (hx : Talks x passed failed) (hfailed : ∀ talk, failed talk → failed' talk)
    (hf : ∀ a talk, passed a talk →
      Talks (f a) (fun b more => passed' b (talk ++ more)) fun more => failed' (talk ++ more)) :
    Talks (x >>= f) passed' failed' where
  of_ok c b c'' hok := by
    obtain ⟨a, c', hxc, hfc⟩ := bind_eq_ok.mp hok
    obtain ⟨talk, hheld, hpassed⟩ := hx.of_ok c a c' hxc
    obtain ⟨more, hmore, hpassed'⟩ := (hf a talk hpassed).of_ok c' b c'' hfc
    exact ⟨talk ++ more, hheld.append hmore, hpassed'⟩
  of_error c e c'' herror := by
    simp only [Bind.bind, EStateM.bind] at herror
    cases hxc : x c with
    | ok a c' =>
      rw [hxc] at herror
      obtain ⟨talk, hheld, hpassed⟩ := hx.of_ok c a c' hxc
      obtain ⟨more, hmore, hfailed'⟩ := (hf a talk hpassed).of_error c' e c'' herror
      exact ⟨talk ++ more, hheld.append hmore, hfailed'⟩
    | error e' c' =>
      rw [hxc] at herror
      cases herror
      obtain ⟨talk, hheld, htalk⟩ := hx.of_error c e c'' hxc
      exact ⟨talk, hheld, hfailed talk htalk⟩

/-- Nothing is said by what only writes to the journal. -/
theorem note_bind {f : Connection → Connection} {g : PUnit → EStateM ε Connection α}
    (hf : ∀ c, (f c).line = c.line) (hg : Talks (g ⟨⟩) passed failed) :
    Talks (modify f >>= g) passed failed where
  of_ok c a c' hok := by
    rw [← hf]
    exact hg.of_ok (f c) a c' hok
  of_error c e c' herror := by
    rw [← hf]
    exact hg.of_error (f c) e c' herror

theorem imp (hx : Talks x passed failed) (hpassed : ∀ a talk, passed a talk → passed' a talk)
    (hfailed : ∀ talk, failed talk → failed' talk) : Talks x passed' failed' where
  of_ok c a c' hok := by
    obtain ⟨talk, hheld, h⟩ := hx.of_ok c a c' hok
    exact ⟨talk, hheld, hpassed a talk h⟩
  of_error c e c' herror := by
    obtain ⟨talk, hheld, h⟩ := hx.of_error c e c' herror
    exact ⟨talk, hheld, hfailed talk h⟩

/-- Giving a failure another name does not change what was said. -/
theorem renamed {y : EStateM ε' Connection α} (hx : Talks x passed failed) (rename : ε → ε')
    (hok : ∀ c a c', x c = .ok a c' → y c = .ok a c')
    (herror : ∀ c e c', x c = .error e c' → y c = .error (rename e) c') :
    Talks y passed failed where
  of_ok c a c' h := by
    cases hxc : x c with
    | ok b d =>
      rw [hok c b d hxc] at h
      cases h
      exact hx.of_ok c a c' hxc
    | error e d =>
      rw [herror c e d hxc] at h
      cases h
  of_error c e c' h := by
    cases hxc : x c with
    | ok b d =>
      rw [hok c b d hxc] at h
      cases h
    | error cause d =>
      rw [herror c cause d hxc] at h
      cases h
      exact hx.of_error c cause c' hxc

theorem blaming {x : Dialogue α} (hx : Talks x passed failed) (blame : Error → Error) :
    Talks (Connection.blaming blame x) passed failed := by
  refine hx.renamed blame ?_ ?_
  · intro c a c' h
    simp only [Connection.blaming, h]
  · intro c e c' h
    simp only [Connection.blaming, h]

/-- A request is one exchange. -/
theorem request (procedure : Procedure) {args : Datum} (reply : Reader α) (hargs : args.Plain) :
    Talks (Connection.request procedure args reply)
      (Exchange.JustAnswered procedure args reply)
      (Exchange.JustUnanswered procedure args reply) where
  of_ok c a c' hok := by
    obtain ⟨data, rest, hcall, hread⟩ := Connection.request_ok hargs.encode hok
    exact ⟨_, .one (.answered hcall), .intro ⟨⟨rfl, hargs.encode⟩, data, rest, rfl, hread⟩⟩
  of_error c e c' herror := by
    rcases Connection.request_error hargs.encode herror with
      hcall | ⟨data, cause, rest, hcall, hread⟩
    · refine ⟨_, .one (.failed hcall), .intro ⟨⟨rfl, hargs.encode⟩, ?_⟩⟩
      intro data a rest hdata
      cases hdata
    · refine ⟨_, .one (.answered hcall), .intro ⟨⟨rfl, hargs.encode⟩, ?_⟩⟩
      intro data' a rest' hdata hread'
      cases hdata
      rw [hread] at hread'
      cases hread'

end Talks

end GuestInventory.Remote
