import GuestInventory.Proofs.Calls

/-!
Runs of steps over one connection, each step after the other whatever the earlier ones came to.
Every turn takes the front of what the turns before it left unread, so the parts of the stream that
the turns take follow one another. A call that succeeds took some events and its own reply, and
serials do not come round again before 2 ^ 32 of them have been used, so no reply ends up with a
call that it was not meant for.
-/
namespace GuestInventory.Remote

inductive Step (α : Type)
  | call (procedure : Procedure) (payload : Bytes)
  | request (procedure : Procedure) (args : Xdr.Datum) (reply : Xdr.Reader α)
  | shutdown
  /-- The other end goes away; what it has written can still be read. -/
  | peerLeaves

inductive Answer (α : Type)
  | payload (data : Bytes)
  | value (a : α)
  | done

namespace Step

def perform : Step α → Dialogue (Answer α)
  | call procedure payload => return .payload (← Connection.call procedure payload)
  | request procedure args reply => return .value (← Connection.request procedure args reply)
  | shutdown => do
    Connection.shutdown
    return .done
  | peerLeaves => do
    modify fun c => { c with socket := c.socket.losePeer }
    return .done

def procedure? : Step α → Option Procedure
  | call procedure _ => some procedure
  | request procedure _ _ => some procedure
  | shutdown => none
  | peerLeaves => none

/-- The payload that a step sends. Without one it makes no call. -/
def payload? : Step α → Option Bytes
  | call _ payload => some payload
  | request _ args _ => args.encode.toOption
  | shutdown => none
  | peerLeaves => none

def interpret : Step α → Bytes → Except Error (Answer α)
  | call _ _, data => .ok (.payload data)
  | request _ _ reply, data =>
    match reply data with
    | .ok a _ => .ok (.value a)
    | .error e _ => .error (.xdr e)
  | shutdown, _ => .ok .done
  | peerLeaves, _ => .ok .done

end Step

structure Turn (α : Type) where
  step : Step α
  before : Connection

namespace Turn

def result (t : Turn α) : EStateM.Result Error Connection (Answer α) := t.step.perform t.before

def after (t : Turn α) : Connection := stateAfter t.result

def taken (t : Turn α) : Bytes :=
  t.before.socket.unread.take
    (t.before.socket.unread.length - t.after.socket.unread.length)

/-- A turn called `procedure`, read some events and then `reply`, which has the serial that it
sent, and gives what the reply says. -/
structure AnsweredBy (t : Turn α) (procedure : Procedure) (a : Answer α) (reply : Packet) :
    Prop where
  called : ∃ payload frame, t.step.payload? = some payload ∧
    procedure.CalledWith t.before.serial payload frame ∧
    t.after.socket.sent = t.before.socket.sent.push frame
  replied : reply.RepliesTo procedure t.before.serial
  interpreted : t.step.interpret reply.payload = .ok a
  taken_eq : ∃ events : List Packet, (∀ e ∈ events, e.IsEvent) ∧
    t.taken = Packet.frames events ++ reply.frame

/-- `reply` is the last that a turn reads of `stream`, and `lead` is all that stands before it. -/
def HandedAfter (t : Turn α) (stream lead : Bytes) (reply : Packet) : Prop :=
  stream = lead ++ (reply.frame ++ t.after.socket.unread)

end Turn

def turns : Connection → List (Step α) → List (Turn α)
  | _, [] => []
  | c, step :: rest =>
    let t : Turn α := ⟨step, c⟩
    t :: turns t.after rest

/-- The turns of a run that use a serial. -/
def calls (c : Connection) (steps : List (Step α)) : List (Turn α) :=
  (turns c steps).filter fun t => t.step.payload?.isSome

namespace Turn

/-- A computation at the end changes nothing. -/
theorem stateAfter_map (g : β → γ) (x : EStateM ε σ β) (s : σ) :
    stateAfter ((do return g (← x) : EStateM ε σ γ) s) = stateAfter (x s) := by
  simp only [Bind.bind, EStateM.bind]
  cases x s <;> rfl

/-- What a call leaves behind is what its turn leaves behind. -/
theorem after_call (procedure : Procedure) (payload : Bytes) (c : Connection) :
    (⟨.call procedure payload, c⟩ : Turn α).after =
      stateAfter (Connection.call procedure payload c) :=
  stateAfter_map Answer.payload _ c

theorem after_request_encoded {procedure : Procedure} {args : Xdr.Datum} {payload : Bytes}
    (reply : Xdr.Reader α) (hargs : args.encode = .ok payload) (c : Connection) :
    (⟨.request procedure args reply, c⟩ : Turn α).after =
      stateAfter (Connection.call procedure payload c) :=
  (stateAfter_map Answer.value _ c).trans (Connection.stateAfter_request reply hargs c)

/-- Without its arguments a request does not become a call. -/
theorem after_request_unwritable {procedure : Procedure} {args : Xdr.Datum} {e : Xdr.Error}
    (reply : Xdr.Reader α) (hargs : args.encode = .error e) (c : Connection) :
    (⟨.request procedure args reply, c⟩ : Turn α).after = c := by
  simp only [after, result, Step.perform, Bind.bind, EStateM.bind,
    Connection.request_unwritable reply hargs]
  rfl

private theorem call_moves (procedure : Procedure) (payload : Bytes) (c : Connection) :
    (stateAfter (Connection.call procedure payload c)).socket.unread <:+ c.socket.unread ∧
      (stateAfter (Connection.call procedure payload c)).serial = c.serial + 1 := by
  have h := Connection.call_after procedure payload c
  have hposted : (c.posted procedure payload).unread = c.socket.unread := by
    unfold Connection.posted
    split <;> rfl
  exact ⟨hposted ▸ h.2.suffix, h.1⟩

/-- A turn reads on; it moves the serial if it sends a payload, and only then. -/
theorem after_moves (t : Turn α) :
    t.after.socket.unread <:+ t.before.socket.unread ∧
      t.after.serial = t.before.serial + if t.step.payload?.isSome then 1 else 0 := by
  obtain ⟨step, c⟩ := t
  cases step with
  | call procedure payload =>
    rw [after_call]
    exact call_moves procedure payload c
  | request procedure args reply =>
    cases hargs : args.encode with
    | ok payload =>
      rw [after_request_encoded reply hargs]
      simp only [Step.payload?, hargs]
      exact call_moves procedure payload c
    | error e =>
      rw [after_request_unwritable reply hargs]
      simp [Step.payload?, hargs, Except.toOption]
  | shutdown => exact ⟨List.suffix_refl _, (UInt32.add_zero _).symm⟩
  | peerLeaves =>
    refine ⟨?_, (UInt32.add_zero _).symm⟩
    change c.socket.losePeer.unread <:+ c.socket.unread
    unfold Socket.losePeer
    split <;> exact List.suffix_refl _

/-- What was unread before a turn is what it takes and what it leaves. -/
theorem unread_before (t : Turn α) :
    t.before.socket.unread = t.taken ++ t.after.socket.unread := by
  obtain ⟨lead, hlead⟩ := t.after_moves.1
  have htaken : t.taken = lead := by
    rw [taken, ← hlead]
    simp
  rw [htaken, hlead]

theorem taken_of_unread {t : Turn α} {lead : Bytes}
    (h : t.before.socket.unread = lead ++ t.after.socket.unread) : t.taken = lead := by
  rw [t.unread_before] at h
  exact List.append_cancel_right h

/-- What the turn of a successful call reads and sends. -/
private theorem answered {t : Turn α} {procedure : Procedure} {payload data : Bytes}
    {a : Answer α} {c' : Connection} (hpayload : t.step.payload? = some payload)
    (hcall : Connection.call procedure payload t.before = .ok data c') (hafter : t.after = c')
    (hinterpret : t.step.interpret data = .ok a) : ∃ reply, t.AnsweredBy procedure a reply := by
  obtain ⟨events, reply, hevents, hreply, rfl, hunread, hsize, hsent⟩ := Connection.call_ok hcall
  rw [← hafter] at hsent hunread
  have hframe : procedure.CalledWith t.before.serial payload
      (t.before.outgoing procedure payload).frame := Procedure.calledWith_frame hsize
  refine ⟨reply, ⟨payload, _, hpayload, hframe, hsent⟩, hreply, hinterpret, events, hevents, ?_⟩
  exact taken_of_unread (by rw [hunread, List.append_assoc])

/-- A call that succeeds was answered by a reply of its own. -/
theorem answered_of_ok (t : Turn α) {procedure : Procedure} {a : Answer α} {c' : Connection}
    (hprocedure : t.step.procedure? = some procedure) (hresult : t.result = .ok a c') :
    ∃ reply, t.AnsweredBy procedure a reply := by
  have hafter : t.after = c' := by rw [after, hresult, stateAfter]
  obtain ⟨step, c⟩ := t
  cases step with
  | call _ payload =>
    cases hprocedure
    simp only [result, Step.perform] at hresult
    obtain ⟨data, d, hcall, hpure⟩ := Xdr.bind_eq_ok.mp hresult
    cases hpure
    exact answered rfl hcall hafter rfl
  | request _ args reply =>
    cases hprocedure
    simp only [result, Step.perform] at hresult
    obtain ⟨value, d, hrequest, hpure⟩ := Xdr.bind_eq_ok.mp hresult
    cases hpure
    cases hargs : args.encode with
    | error e =>
      rw [Connection.request_unwritable reply hargs] at hrequest
      cases hrequest
    | ok payload =>
      obtain ⟨data, rest, hcall, hread⟩ := Connection.request_ok hargs hrequest
      have hpayload : Step.payload? (.request procedure args reply) = some payload := by
        simp only [Step.payload?, hargs]
        rfl
      refine answered hpayload hcall hafter ?_
      simp only [Step.interpret, hread]
  | shutdown => cases hprocedure
  | peerLeaves => cases hprocedure

end Turn

/-- What has been read after a turn is what the turns so far have taken. -/
theorem unread_turns (c : Connection) (steps : List (Step α)) (i : Nat)
    (hi : i < (turns c steps).length) :
    c.socket.unread = ((turns c steps).take (i + 1)).flatMap Turn.taken ++
      (turns c steps)[i].after.socket.unread := by
  induction steps generalizing c i with
  | nil => simp [turns] at hi
  | cons step rest ih =>
    have hfirst : c.socket.unread = _ := Turn.unread_before ⟨step, c⟩
    cases i with
    | zero => simpa [turns] using hfirst
    | succ i =>
      have hrest := ih (Turn.after ⟨step, c⟩) i (by simpa [turns] using hi)
      simp only [turns, List.take_succ_cons, List.flatMap_cons, List.getElem_cons_succ,
        List.append_assoc]
      rw [← hrest]
      exact hfirst

theorem before_suffix (c : Connection) (steps : List (Step α)) (t : Turn α)
    (ht : t ∈ turns c steps) : t.before.socket.unread <:+ c.socket.unread := by
  induction steps generalizing c with
  | nil => simp [turns] at ht
  | cons step rest ih =>
    rcases List.mem_cons.mp ht with rfl | ht
    · exact List.suffix_refl _
    · exact (ih _ ht).trans (Turn.after_moves ⟨step, c⟩).1

/-- A later turn starts from what an earlier one has left, or from less. -/
theorem unread_later (c : Connection) (steps : List (Step α)) (i j : Nat)
    (hj : j < (turns c steps).length) (hij : i < j) :
    (turns c steps)[j].before.socket.unread <:+ (turns c steps)[i].after.socket.unread := by
  induction steps generalizing c i j with
  | nil => simp [turns] at hj
  | cons step rest ih =>
    obtain ⟨j, rfl⟩ : ∃ k, j = k + 1 := ⟨j - 1, by omega⟩
    have hj' : j < (turns (Turn.after ⟨step, c⟩) rest).length := by simpa [turns] using hj
    cases i with
    | zero =>
      simp only [turns, List.getElem_cons_succ, List.getElem_cons_zero]
      exact before_suffix _ rest _ (List.getElem_mem hj')
    | succ i =>
      simp only [turns, List.getElem_cons_succ]
      exact ih _ i j hj' (by omega)

/-- The serials of a run follow one another from the first. -/
theorem serial_calls (c : Connection) (steps : List (Step α)) (i : Nat)
    (hi : i < (calls c steps).length) :
    (calls c steps)[i].before.serial = c.serial + UInt32.ofNat i := by
  induction steps generalizing c i with
  | nil => simp [calls, turns] at hi
  | cons step rest ih =>
    have hserial := (Turn.after_moves ⟨step, c⟩).2
    by_cases hcall : step.payload?.isSome
    · have hcalls : calls c (step :: rest) = ⟨step, c⟩ :: calls (Turn.after ⟨step, c⟩) rest := by
        simp [calls, turns, hcall]
      simp only [hcalls] at hi ⊢
      cases i with
      | zero => simp
      | succ i =>
        rw [List.getElem_cons_succ, ih _ i (Nat.lt_of_succ_lt_succ hi), hserial]
        simp only [if_pos hcall]
        rw [UInt32.add_assoc, Nat.add_comm i 1, UInt32.ofNat_add]
        rfl
    · have hcalls : calls c (step :: rest) = calls (Turn.after ⟨step, c⟩) rest := by
        simp [calls, turns, hcall]
      simp only [hcalls] at hi ⊢
      rw [ih _ i hi, hserial]
      simp only [if_neg hcall, UInt32.add_zero]

/-- Serials come round again only after all of them have been used. -/
theorem eq_of_serial_eq (c : Connection) (steps : List (Step α)) (i j : Nat)
    (hi : i < (calls c steps).length) (hj : j < (calls c steps).length)
    (hnear : i < j + 4294967296 ∧ j < i + 4294967296)
    (h : (calls c steps)[i].before.serial = (calls c steps)[j].before.serial) : i = j := by
  rw [serial_calls, serial_calls, UInt32.add_right_inj] at h
  have hmod := congrArg UInt32.toNat h
  simp only [UInt32.toNat_ofNat'] at hmod
  omega

/-- A reply is handed over behind whatever earlier turns were handed. -/
theorem handed_later (c : Connection) (steps : List (Step α)) (i j : Nat)
    (hj : j < (turns c steps).length) (hij : i < j) {procedure : Procedure} {a : Answer α}
    {lead lead' : Bytes} {reply reply' : Packet}
    (hi : (turns c steps)[i].HandedAfter c.socket.unread lead reply)
    (hreply : (turns c steps)[j].AnsweredBy procedure a reply')
    (hhanded : (turns c steps)[j].HandedAfter c.socket.unread lead' reply') :
    lead.length + reply.frame.length ≤ lead'.length := by
  obtain ⟨events, -, htaken⟩ := hreply.taken_eq
  have hbefore := congrArg List.length (turns c steps)[j].unread_before
  have hlater := (unread_later c steps i j hj hij).length_le
  have hfirst := congrArg List.length hi
  have hsecond := congrArg List.length hhanded
  rw [htaken, List.length_append, List.length_append] at hbefore
  simp only [List.length_append] at hfirst hsecond
  omega

/-- In the stream of the whole run, a reply stands behind all that was read before it. -/
theorem handed_of_answered (c : Connection) (steps : List (Step α)) (t : Turn α)
    (ht : t ∈ turns c steps) {procedure : Procedure} {a : Answer α} {reply : Packet}
    (hreply : t.AnsweredBy procedure a reply) :
    ∃ lead, t.HandedAfter c.socket.unread lead reply := by
  obtain ⟨events, -, htaken⟩ := hreply.taken_eq
  obtain ⟨lead, hlead⟩ := before_suffix c steps t ht
  refine ⟨lead ++ Packet.frames events, ?_⟩
  rw [Turn.HandedAfter, ← hlead, t.unread_before, htaken]
  simp only [List.append_assoc]

/-- On any stream, after any failures: the turns of a run take the stream apart in order; a call
that succeeds was answered by a reply of its own, read after nothing but events; no two calls are
handed the same part of the stream; and among 2 ^ 32 calls in a row, none but the call whose
serial a reply has is handed it. -/
theorem replies_pair_with_calls (c : Connection) (steps : List (Step α)) :
    (∀ i (hi : i < (turns c steps).length),
      c.socket.unread = ((turns c steps).take (i + 1)).flatMap Turn.taken ++
        (turns c steps)[i].after.socket.unread) ∧
    (∀ t ∈ turns c steps, ∀ procedure a c',
      t.step.procedure? = some procedure → t.result = .ok a c' →
        ∃ reply lead, t.AnsweredBy procedure a reply ∧
          t.HandedAfter c.socket.unread lead reply) ∧
    (∀ i j (hj : j < (turns c steps).length) (hij : i < j) procedure a lead lead' reply reply',
      (turns c steps)[i].HandedAfter c.socket.unread lead reply →
      (turns c steps)[j].AnsweredBy procedure a reply' →
      (turns c steps)[j].HandedAfter c.socket.unread lead' reply' →
        lead.length + reply.frame.length ≤ lead'.length) ∧
    (∀ i j (hi : i < (calls c steps).length) (hj : j < (calls c steps).length),
      i < j + 4294967296 ∧ j < i + 4294967296 → ∀ procedure a reply,
        (calls c steps)[j].AnsweredBy procedure a reply →
        reply.serial = (calls c steps)[i].before.serial → i = j) := by
  refine ⟨unread_turns c steps, ?_, ?_, ?_⟩
  · intro t ht procedure a c' hprocedure hresult
    obtain ⟨reply, hreply⟩ := t.answered_of_ok hprocedure hresult
    obtain ⟨lead, hlead⟩ := handed_of_answered c steps t ht hreply
    exact ⟨reply, lead, hreply, hlead⟩
  · intro i j hj hij procedure a lead lead' reply reply' hi hreply hhanded
    exact handed_later c steps i j hj hij hi hreply hhanded
  · intro i j hi hj hnear procedure a reply hreply hserial
    have hsame := hserial.symm.trans hreply.replied.serial_eq
    exact eq_of_serial_eq c steps i j hi hj hnear hsame

end GuestInventory.Remote
