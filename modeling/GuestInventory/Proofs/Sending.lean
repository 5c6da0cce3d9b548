import GuestInventory.Proofs.Interjections

/-!
The sending side of a run. A call goes wrong before its packet is out in three places: where its
arguments are written, where its packet is made and where the packet is sent. They stand on
different sides of the serial counter and of the record, and what a turn leaves behind says which
it was. Nothing is read before the packet is out, so a socket that is shut is read no more.
-/
namespace GuestInventory.Remote

namespace Step

inductive Calls : Step α → Procedure → Bytes → Prop
  | call (procedure : Procedure) (payload : Bytes) :
      Calls (.call procedure payload) procedure payload
  | request {args : Xdr.Datum} {payload : Bytes} (procedure : Procedure) (reply : Xdr.Reader α)
      (hargs : args.encode = .ok payload) :
      Calls (.request procedure args reply) procedure payload

inductive Unwritable : Step α → Xdr.Error → Prop
  | request {args : Xdr.Datum} {e : Xdr.Error} (procedure : Procedure) (reply : Xdr.Reader α)
      (hargs : args.encode = .error e) : Unwritable (.request procedure args reply) e

variable {step : Step α} {procedure : Procedure} {payload : Bytes}

theorem Calls.procedure?_eq (h : step.Calls procedure payload) :
    step.procedure? = some procedure := by
  cases h <;> rfl

theorem Calls.payload?_eq (h : step.Calls procedure payload) : step.payload? = some payload := by
  cases h with
  | call => rfl
  | request _ _ hargs =>
    simp only [payload?, hargs]
    rfl

theorem exists_calls (h : step.payload?.isSome) :
    ∃ procedure payload, step.Calls procedure payload := by
  cases step with
  | call procedure payload => exact ⟨procedure, payload, .call procedure payload⟩
  | request procedure args reply =>
    cases hargs : args.encode with
    | ok payload => exact ⟨procedure, payload, .request procedure reply hargs⟩
    | error e => simp [payload?, hargs, Except.toOption] at h
  | shutdown => cases h
  | peerLeaves => cases h

end Step

namespace Connection

variable {procedure : Procedure} {payload : Bytes} {c : Connection}

/-- A packet goes out if it is not too large and the way out is open. -/
def Posts (procedure : Procedure) (payload : Bytes) (c : Connection) : Prop :=
  (c.outgoing procedure payload).size ≤ packetMaximum ∧ c.socket.CanSend

instance (procedure : Procedure) (payload : Bytes) (c : Connection) :
    Decidable (c.Posts procedure payload) :=
  inferInstanceAs (Decidable (_ ∧ _))

/-- A call whose packet does not go out has used its serial, and that is all. -/
theorem call_unposted (h : ¬ c.Posts procedure payload) :
    ∃ e, call procedure payload c = .error e (c.begin procedure) := by
  by_cases hsize : (c.outgoing procedure payload).size ≤ packetMaximum
  · exact ⟨_, call_unsendable hsize fun hsend => h ⟨hsize, hsend⟩⟩
  · exact ⟨_, call_tooLarge (Nat.lt_of_not_le hsize)⟩

def outgo (procedure : Procedure) (payload : Bytes) (c : Connection) : Option Bytes :=
  if c.Posts procedure payload then some (c.outgoing procedure payload).frame else none

theorem outgo_eq_some_iff {frame : Bytes} :
    c.outgo procedure payload = some frame ↔
      c.Posts procedure payload ∧ (c.outgoing procedure payload).frame = frame := by
  unfold outgo
  by_cases hposts : c.Posts procedure payload
  · rw [if_pos hposts, Option.some_inj]
    exact (and_iff_right hposts).symm
  · rw [if_neg hposts]
    exact ⟨nofun, fun h => absurd h.1 hposts⟩

theorem calledWith_of_outgo {frame : Bytes} (h : c.outgo procedure payload = some frame) :
    procedure.CalledWith c.serial payload frame := by
  obtain ⟨hposts, rfl⟩ := outgo_eq_some_iff.mp h
  exact Procedure.calledWith_frame hposts.1

theorem call_sent (procedure : Procedure) (payload : Bytes) (c : Connection) :
    (stateAfter (call procedure payload c)).socket.sent =
      c.socket.sent ++ (c.outgo procedure payload).toArray := by
  rw [(call_after procedure payload c).2.sent_eq, outgo]
  by_cases hposts : c.Posts procedure payload
  · rw [posted, if_pos ⟨hposts.1, hposts.2⟩, if_pos hposts]
    simp [sending]
  · rw [posted, if_neg fun h => hposts ⟨h.1, h.2⟩, if_neg hposts]
    simp

/-- A call is recorded first, and then the events that it passes over. -/
theorem call_journal (procedure : Procedure) (payload : Bytes) (c : Connection) :
    ∃ skipped : List Packet, (∀ e ∈ skipped, e.IsEvent) ∧
      (stateAfter (call procedure payload c)).journal =
        c.journal.push (.event (.call procedure c.serial)) ++
          (skipped.map fun e => Log.Entry.event (.skippedMessage e.procedure)).toArray := by
  by_cases hposts : c.Posts procedure payload
  · obtain ⟨events, rest, hevents, -, hawait⟩ := awaitReply_cases procedure c.serial
      ((c.begin procedure).sending (c.outgoing procedure payload))
    obtain ⟨socket, -, hstate⟩ := settle_readOn procedure c.serial
      (((c.begin procedure).sending (c.outgoing procedure payload)).pass events rest)
    refine ⟨events, hevents, ?_⟩
    rw [call_sends hposts.1 hposts.2, hawait, hstate]
    rfl
  · obtain ⟨e, hcall⟩ := call_unposted hposts
    refine ⟨[], by simp, ?_⟩
    rw [hcall]
    simp [stateAfter, begin, note]

end Connection

/-- Nothing has been read or sent between `s` and `s'`, and what was shut is shut still. -/
structure Socket.Still (s s' : Socket) : Prop where
  unread_eq : s'.unread = s.unread
  sent_eq : s'.sent = s.sent
  shut : s.writeShut = true → s'.writeShut = true

theorem Socket.Still.refl (s : Socket) : s.Still s := ⟨rfl, rfl, id⟩

theorem Socket.Still.trans {s s' s'' : Socket} (h : s.Still s') (h' : s'.Still s'') :
    s.Still s'' :=
  ⟨h'.unread_eq.trans h.unread_eq, h'.sent_eq.trans h.sent_eq, fun hs => h'.shut (h.shut hs)⟩

namespace Turn

variable {t : Turn α} {procedure : Procedure} {payload : Bytes}

theorem after_of_calls (h : t.step.Calls procedure payload) :
    t.after = stateAfter (Connection.call procedure payload t.before) := by
  obtain ⟨step, c⟩ := t
  cases h with
  | call => exact after_call procedure payload c
  | request procedure reply hargs => exact after_request_encoded reply hargs c

/-- A call that fails fails its turn. -/
theorem result_of_calls {e : Error} {c' : Connection} (h : t.step.Calls procedure payload)
    (hcall : Connection.call procedure payload t.before = .error e c') :
    t.result = .error e c' := by
  obtain ⟨step, c⟩ := t
  cases h with
  | call => simp only [result, Step.perform, Bind.bind, EStateM.bind, hcall]
  | request procedure reply hargs =>
    simp only [result, Step.perform, Bind.bind, EStateM.bind,
      Connection.request_encoded reply hargs, hcall]

/-- Arguments that cannot be written leave everything as it is. -/
theorem result_of_unwritable {e : Xdr.Error} (h : t.step.Unwritable e) :
    t.result = .error (.xdr e) t.before := by
  obtain ⟨step, c⟩ := t
  cases h with
  | request procedure reply hargs =>
    simp only [result, Step.perform, Bind.bind, EStateM.bind,
      Connection.request_unwritable reply hargs]

theorem result_of_tooLarge (h : t.step.Calls procedure payload)
    (hsize : packetMaximum < (t.before.outgoing procedure payload).size) :
    t.result = .error (.packet (.tooLarge (t.before.outgoing procedure payload).size))
      (t.before.begin procedure) :=
  result_of_calls h (Connection.call_tooLarge hsize)

/-- A frame that cannot be sent fails its turn for the reason that sending gives. -/
theorem result_of_unsent {frame : Bytes} {e : Error} {s : Socket}
    (h : t.step.Calls procedure payload)
    (hframe : procedure.CalledWith t.before.serial payload frame)
    (hsend : Socket.send frame t.before.socket = .error e s) :
    t.result = .error e (t.before.begin procedure) := by
  have hsocket : s = t.before.socket := by
    unfold Socket.send at hsend
    split at hsend
    · cases hsend
    · split at hsend <;> cases hsend
      rfl
  refine result_of_calls h ?_
  obtain ⟨hsize, rfl⟩ := Procedure.calledWith_iff.mp hframe
  have hencode : (t.before.outgoing procedure payload).encode =
      .ok (Packet.call procedure.number t.before.serial payload).frame := Packet.encode_of_le hsize
  rw [Connection.call_eq, hencode]
  dsimp only
  rw [hsend, hsocket]
  rfl

/-- The frame that a turn sends. It sends none if it makes no call, if its arguments cannot be
written, if its packet is too large or if sending fails. -/
def frame? (t : Turn α) : Option Bytes := do
  let procedure ← t.step.procedure?
  let payload ← t.step.payload?
  let frame ← (t.before.outgoing procedure payload).encode.toOption
  match Socket.send frame t.before.socket with
  | .ok () _ => some frame
  | .error _ _ => none

theorem frame?_of_calls (h : t.step.Calls procedure payload) :
    t.frame? = t.before.outgo procedure payload := by
  simp only [frame?, h.procedure?_eq, h.payload?_eq, Option.bind_eq_bind, Option.bind_some,
    Connection.outgo]
  by_cases hsize : (t.before.outgoing procedure payload).size ≤ packetMaximum
  · rw [Packet.encode_of_le hsize]
    by_cases hsend : t.before.socket.CanSend
    · rw [if_pos ⟨hsize, hsend⟩]
      simp only [Except.toOption, Option.bind_some, Socket.send_frame hsend]
    · rw [if_neg fun h => hsend h.2]
      simp only [Except.toOption, Option.bind_some, Socket.send_stopped hsend]
  · rw [if_neg fun h => hsize h.1, Packet.encode_of_lt (Nat.lt_of_not_le hsize)]
    rfl

theorem frame?_of_not_calls (h : ¬ t.step.payload?.isSome) : t.frame? = none := by
  have hpayload : t.step.payload? = none := Option.not_isSome_iff_eq_none.mp h
  rw [frame?, hpayload]
  cases t.step.procedure? <;> rfl

/-- A turn that makes a call and sends nothing could not send its packet. -/
theorem not_posts_of_frame? (h : t.step.Calls procedure payload) (hframe : t.frame? = none) :
    ¬ t.before.Posts procedure payload := by
  intro hposts
  rw [frame?_of_calls h, Connection.outgo, if_pos hposts] at hframe
  cases hframe

/-- A turn that sends a frame makes a call, and the frame is its packet. -/
theorem posts_of_frame? {frame : Bytes} (h : t.frame? = some frame) :
    ∃ procedure payload, t.step.Calls procedure payload ∧ t.before.Posts procedure payload ∧
      frame = (t.before.outgoing procedure payload).frame := by
  have hcall : t.step.payload?.isSome := by
    refine Decidable.byContradiction fun hcall => ?_
    rw [frame?_of_not_calls hcall] at h
    cases h
  obtain ⟨procedure, payload, hcalls⟩ := Step.exists_calls hcall
  rw [frame?_of_calls hcalls] at h
  obtain ⟨hposts, rfl⟩ := Connection.outgo_eq_some_iff.mp h
  exact ⟨procedure, payload, hcalls, hposts, rfl⟩

/-- What a turn that sends nothing may do to the socket. -/
theorem socket_of_frame? (h : t.frame? = none) :
    t.after.socket = t.before.socket ∨
      t.after.socket = { t.before.socket with writeShut := true } ∨
        t.after.socket = t.before.socket.losePeer := by
  by_cases hcall : t.step.payload?.isSome
  · obtain ⟨procedure, payload, hcalls⟩ := Step.exists_calls hcall
    obtain ⟨e, hstopped⟩ := Connection.call_unposted (not_posts_of_frame? hcalls h)
    rw [after_of_calls hcalls, hstopped]
    exact Or.inl rfl
  · -- no call: the step is one of the others, or its arguments cannot be written
    obtain ⟨step, c⟩ := t
    cases step with
    | call procedure payload => exact absurd rfl hcall
    | request procedure args reply =>
      cases hargs : args.encode with
      | ok payload => simp [Step.payload?, hargs, Except.toOption] at hcall
      | error e =>
        rw [after_request_unwritable reply hargs]
        exact Or.inl rfl
    | shutdown => exact Or.inr (Or.inl rfl)
    | peerLeaves => exact Or.inr (Or.inr rfl)

/-- A turn that sends nothing reads nothing. -/
theorem still_of_frame? (h : t.frame? = none) : t.before.socket.Still t.after.socket := by
  rcases socket_of_frame? h with hsocket | hsocket | hsocket
  · rw [hsocket]
    exact .refl _
  · rw [hsocket]
    exact ⟨rfl, rfl, fun _ => rfl⟩
  · rw [hsocket]
    unfold Socket.losePeer
    split <;> exact ⟨rfl, rfl, id⟩

theorem frame?_of_shut (h : t.before.socket.writeShut = true) : t.frame? = none := by
  cases hframe : t.frame? with
  | none => rfl
  | some frame =>
    obtain ⟨procedure, payload, -, hposts, -⟩ := posts_of_frame? hframe
    have hopen := hposts.2.1
    rw [h] at hopen
    cases hopen

/-- A turn sends one frame or none. -/
theorem after_sent (t : Turn α) :
    t.after.socket.sent = t.before.socket.sent ++ t.frame?.toArray := by
  cases hframe : t.frame? with
  | none => simpa using (still_of_frame? hframe).sent_eq
  | some frame =>
    obtain ⟨procedure, payload, hcalls, -, -⟩ := posts_of_frame? hframe
    rw [after_of_calls hcalls, Connection.call_sent, ← frame?_of_calls hcalls, hframe]

/-- A turn makes its call under the serial `n`: in its record, in the header of its packet and in
the counter that it leaves behind. -/
structure UsesSerial (t : Turn α) (n : UInt32) (procedure : Procedure) (payload : Bytes) :
    Prop where
  calls : t.step.Calls procedure payload
  recorded : ∃ skipped : List Packet, (∀ e ∈ skipped, e.IsEvent) ∧
    t.after.journal = t.before.journal.push (.event (.call procedure n)) ++
      (skipped.map fun e => Log.Entry.event (.skippedMessage e.procedure)).toArray
  framed : ∀ frame, t.frame? = some frame → procedure.CalledWith n payload frame
  sends_iff : t.frame?.isSome ↔
    28 + payload.length ≤ packetMaximum ∧ t.before.socket.CanSend
  counted : t.before.serial = n ∧ t.after.serial = n + 1

/-- Every call takes the serial that its turn finds. -/
theorem usesSerial (h : t.step.Calls procedure payload) :
    t.UsesSerial t.before.serial procedure payload where
  calls := h
  recorded := by
    rw [after_of_calls h]
    exact Connection.call_journal procedure payload t.before
  framed frame hframe := by
    rw [frame?_of_calls h] at hframe
    exact Connection.calledWith_of_outgo hframe
  sends_iff := by
    rw [frame?_of_calls h, Connection.outgo]
    by_cases hposts : t.before.Posts procedure payload
    · rw [if_pos hposts]
      exact ⟨fun _ => hposts, fun _ => rfl⟩
    · rw [if_neg hposts]
      exact ⟨nofun, fun hsends => absurd hsends hposts⟩
  counted := by
    rw [after_of_calls h]
    exact ⟨rfl, (Connection.call_after procedure payload t.before).1⟩

end Turn

theorem atEnd_append (c : Connection) (steps later : List (Step α)) :
    atEnd c (steps ++ later) = atEnd (atEnd c steps) later := by
  induction steps generalizing c with
  | nil => rfl
  | cons step rest ih => exact ih _

/-- What a run sends is what its turns send, in order. -/
theorem sent_atEnd (c : Connection) (steps : List (Step α)) :
    (atEnd c steps).socket.sent =
      c.socket.sent ++ ((turns c steps).filterMap Turn.frame?).toArray := by
  induction steps generalizing c with
  | nil => simp [atEnd, turns]
  | cons step rest ih =>
    have hfirst := Turn.after_sent ⟨step, c⟩
    rw [atEnd, ih, hfirst, turns]
    cases hframe : Turn.frame? ⟨step, c⟩ <;> simp [hframe]

/-- The turns that make no call send nothing. -/
theorem frames_calls (c : Connection) (steps : List (Step α)) :
    (calls c steps).filterMap Turn.frame? = (turns c steps).filterMap Turn.frame? := by
  have hsame : (fun t : Turn α => if t.step.payload?.isSome then t.frame? else none) =
      Turn.frame? := by
    funext t
    by_cases hcall : t.step.payload?.isSome
    · rw [if_pos hcall]
    · rw [if_neg hcall, Turn.frame?_of_not_calls hcall]
  rw [calls, List.filterMap_filter, hsame]

/-- By induction on the steps: each of them finds the writing side shut and leaves it so. -/
theorem still_of_shut {c : Connection} (h : c.socket.writeShut = true) (steps : List (Step α)) :
    c.socket.Still (atEnd c steps).socket := by
  induction steps generalizing c with
  | nil => exact .refl _
  | cons step rest ih =>
    have hfirst := Turn.still_of_frame? (t := ⟨step, c⟩) (Turn.frame?_of_shut h)
    exact hfirst.trans (ih (hfirst.shut h))

/-- The serials of a connection count its calls from 1, and start over behind the last one. -/
theorem usesSerial_calls (socket : Socket) (journal : Log.Journal) (steps : List (Step α)) (i : Nat)
    (hi : i < (calls { socket, journal } steps).length) :
    ∃ n procedure payload, n.toNat = (i + 1) % 4294967296 ∧
      (calls { socket, journal } steps)[i].UsesSerial n procedure payload := by
  have hmem := List.getElem_mem hi
  obtain ⟨procedure, payload, hcalls⟩ := Step.exists_calls (List.mem_filter.mp hmem).2
  refine ⟨_, procedure, payload, ?_, Turn.usesSerial hcalls⟩
  have hserial := congrArg UInt32.toNat (serial_calls { socket, journal } steps i hi)
  rw [hserial, UInt32.toNat_add, UInt32.toNat_ofNat']
  change (1 + i % 4294967296) % 4294967296 = (i + 1) % 4294967296
  omega

/-- For any run over a new connection: the calls that get their arguments written use the serials
1, 2, and so on. A call that cannot write its arguments changes nothing; one whose packet is too
large or cannot be sent uses its serial, records itself, and neither sends nor reads. The frames
that are sent are those of all other calls, in order. After a shutdown nothing more is sent or
read. -/
theorem serials_and_frames (socket : Socket) (journal : Log.Journal) (steps : List (Step α)) :
    (∀ i (hi : i < (calls { socket, journal } steps).length),
      ∃ n procedure payload, n.toNat = (i + 1) % 4294967296 ∧
        (calls { socket, journal } steps)[i].UsesSerial n procedure payload) ∧
    (∀ t ∈ turns { socket, journal } steps,
      (∀ e, t.step.Unwritable e → t.result = .error (.xdr e) t.before) ∧
      ∀ procedure payload, t.step.Calls procedure payload →
        (packetMaximum < 28 + payload.length →
          t.result = .error (.packet (.tooLarge (28 + payload.length)))
            (t.before.begin procedure)) ∧
        ∀ frame e s, procedure.CalledWith t.before.serial payload frame →
          Socket.send frame t.before.socket = .error e s →
            t.result = .error e (t.before.begin procedure)) ∧
    (atEnd { socket, journal } steps).socket.sent =
      socket.sent ++ ((calls { socket, journal } steps).filterMap Turn.frame?).toArray ∧
    ∀ later : List (Step α),
      (atEnd { socket, journal } (steps ++ .shutdown :: later)).socket.sent =
        (atEnd { socket, journal } steps).socket.sent ∧
      (atEnd { socket, journal } (steps ++ .shutdown :: later)).socket.unread =
        (atEnd { socket, journal } steps).socket.unread := by
  refine ⟨usesSerial_calls socket journal steps, ?_, ?_, ?_⟩
  · intro t _
    refine ⟨fun e => Turn.result_of_unwritable, fun procedure payload hcalls => ⟨?_, ?_⟩⟩
    · exact Turn.result_of_tooLarge hcalls
    · intro frame e s
      exact Turn.result_of_unsent hcalls
  · rw [frames_calls]
    exact sent_atEnd _ steps
  · intro later
    let ended := atEnd { socket, journal } steps
    have hstill := still_of_shut (c := Turn.after ⟨(.shutdown : Step α), ended⟩) rfl later
    rw [atEnd_append]
    exact ⟨hstill.sent_eq, hstill.unread_eq⟩

def unheard : List (Step Unit) :=
  [.request .authList (.unsupported .map) (pure ()), .shutdown, .call .connectClose [1]]

/-- The first call fails before it has a serial, so the second one has the first serial. It does
not get out, and what the daemon has written stays where it is. -/
theorem serials_and_frames_unheard :
    (∃ n procedure payload, n.toNat = 1 ∧
      ∃ t ∈ calls { socket := { unread := [7] } } unheard,
        t.UsesSerial n procedure payload) ∧
    (∃ t ∈ turns { socket := { unread := [7] } } unheard,
      t.result = .error (.xdr (.unsupported .map)) t.before) ∧
    (atEnd { socket := { unread := [7] } } unheard).socket.sent = #[] ∧
    (atEnd { socket := { unread := [7] } } unheard).socket.unread = [7] := by
  let first : List (Step Unit) := [.request .authList (.unsupported .map) (pure ())]
  obtain ⟨hserial, hturns, -, -⟩ := serials_and_frames { unread := [7] } #[] unheard
  obtain ⟨-, -, -, hshut⟩ := serials_and_frames { unread := [7] } #[] first
  obtain ⟨hsent, hunread⟩ := hshut [.call .connectClose [1]]
  have hcount : 0 < (calls { socket := { unread := [7] } } unheard).length := by
    simp [calls, turns, unheard, Step.payload?]
  refine ⟨?_, ⟨_, List.mem_cons_self, ?_⟩, hsent, hunread⟩
  · obtain ⟨n, procedure, payload, hn, huses⟩ := hserial 0 hcount
    exact ⟨n, procedure, payload, hn, _, List.getElem_mem hcount, huses⟩
  · exact (hturns _ List.mem_cons_self).1 _ (.request .authList (pure ()) rfl)

end GuestInventory.Remote
