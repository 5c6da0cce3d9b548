import GuestInventory.Proofs.Framing
import GuestInventory.Remote.Connection

/-!
What a call does, for any bytes the daemon may have written. Waiting for a reply passes over the
event packets that come first and is then settled by whatever is next on the stream. So every call
ends in one of four ways: its packet is too large, it cannot be sent, or the first thing that is
no event is its reply or is not.
-/
namespace GuestInventory.Remote

namespace Packet

structure IsEvent (p : Packet) : Prop extends p.Travels where
  kind_eq : p.kind = .message

/-- The reply that a call waits for. -/
structure RepliesTo (procedure : Procedure) (serial : UInt32) (p : Packet) : Prop
    extends p.Travels where
  kind_eq : p.kind = .reply
  status_eq : p.status = .ok
  procedure_eq : p.procedure = procedure.number
  serial_eq : p.serial = serial

structure IsCall (procedure : Procedure) (serial : UInt32) (payload : Bytes) (p : Packet) :
    Prop where
  program_eq : p.program = 0x20008086
  version_eq : p.version = 1
  procedure_eq : p.procedure = procedure.number
  /-- No other procedure has the number. -/
  named : Procedure.ofNumber? p.procedure = some procedure
  kind_eq : p.kind = .call
  serial_eq : p.serial = serial
  status_eq : p.status = .ok
  payload_eq : p.payload = payload

theorem isCall_call (procedure : Procedure) (serial : UInt32) (payload : Bytes) :
    (call procedure.number serial payload).IsCall procedure serial payload :=
  ⟨rfl, rfl, rfl, procedure.ofNumber?_number, rfl, rfl, rfl, rfl⟩

theorem IsCall.eq_call {procedure : Procedure} {serial : UInt32} {payload : Bytes} {p : Packet}
    (h : p.IsCall procedure serial payload) : p = call procedure.number serial payload := by
  obtain ⟨program, version, number, kind, serial, status, payload⟩ := p
  obtain ⟨rfl, rfl, rfl, -, rfl, rfl, rfl, rfl⟩ := h
  rfl

def frames (ps : List Packet) : Bytes := ps.flatMap frame

@[simp] theorem frames_nil : frames [] = [] := rfl

@[simp] theorem frames_cons (p : Packet) (ps : List Packet) :
    frames (p :: ps) = p.frame ++ frames ps := List.flatMap_cons

end Packet

/-- A frame is read, behind its length word, as a call of a procedure. -/
def Procedure.CalledWith (procedure : Procedure) (serial : UInt32) (payload frame : Bytes) : Prop :=
  ∃ p : Packet, p.IsCall procedure serial payload ∧ p.encode = .ok frame ∧
    Packet.decode (frame.drop 4) = .ok p

/-- A frame that is read as a call is the one that the call is written as. -/
theorem Procedure.calledWith_iff {procedure : Procedure} {serial : UInt32}
    {payload frame : Bytes} :
    procedure.CalledWith serial payload frame ↔
      28 + payload.length ≤ packetMaximum ∧
        (Packet.call procedure.number serial payload).frame = frame := by
  constructor
  · intro h
    obtain ⟨p, hp, hframe, -⟩ := h
    rw [hp.eq_call, Packet.encode] at hframe
    split at hframe
    · cases hframe
    · rename_i hsize
      exact ⟨Nat.le_of_not_lt hsize, Except.ok.inj hframe⟩
  · intro h
    obtain ⟨hsize, rfl⟩ := h
    exact ⟨_, Packet.isCall_call procedure serial payload, Packet.encode_of_le hsize,
      Packet.decode_body rfl⟩

theorem Procedure.calledWith_frame {procedure : Procedure} {serial : UInt32} {payload : Bytes}
    (h : 28 + payload.length ≤ packetMaximum) :
    procedure.CalledWith serial payload (Packet.call procedure.number serial payload).frame :=
  calledWith_iff.mpr ⟨h, rfl⟩

/-- Calls under one serial after another, and the frames that they send. A call that is too large
sends none. -/
inductive CalledInTurn : UInt32 → List (Procedure × Bytes) → List Bytes → Prop
  | nil (serial : UInt32) : CalledInTurn serial [] []
  | sent {serial : UInt32} {procedure : Procedure} {payload frame : Bytes}
      {later : List (Procedure × Bytes)} {frames : List Bytes}
      (hframe : procedure.CalledWith serial payload frame)
      (hlater : CalledInTurn (serial + 1) later frames) :
      CalledInTurn serial ((procedure, payload) :: later) (frame :: frames)
  | tooLarge {serial : UInt32} {procedure : Procedure} {payload : Bytes}
      {later : List (Procedure × Bytes)} {frames : List Bytes}
      (hsize : packetMaximum < 28 + payload.length)
      (hlater : CalledInTurn (serial + 1) later frames) :
      CalledInTurn serial ((procedure, payload) :: later) frames

/-- A connection without its journal. -/
structure Line where
  socket : Socket
  serial : UInt32

def Connection.line (c : Connection) : Line := ⟨c.socket, c.serial⟩

def Socket.EventNext (s : Socket) : Prop :=
  ∃ e rest, e.IsEvent ∧ s.unread = Packet.frame e ++ rest

theorem Socket.not_eventNext {s : Socket} {p : Packet} {rest : Bytes} (hp : p.Travels)
    (hkind : p.kind ≠ .message) (hs : s.unread = p.frame ++ rest) : ¬ s.EventNext := by
  rintro ⟨e, rest', he, hs'⟩
  have hreceive := receive_frame hp hs
  rw [receive_frame he.toTravels hs'] at hreceive
  injection hreceive with hbody
  have hdecode := Packet.decode_body hp.program_eq
  rw [← hbody, Packet.decode_body he.program_eq] at hdecode
  cases hdecode
  exact hkind he.kind_eq

/-- Any unread bytes begin with the frames of some events and go on with no event. -/
theorem Socket.exists_events (s : Socket) :
    ∃ events rest, (∀ e ∈ events, Packet.IsEvent e) ∧
      s.unread = Packet.frames events ++ rest ∧ ¬ EventNext { s with unread := rest } := by
  induction hn : s.unread.length using Nat.strongRecOn generalizing s with
  | ind n ih =>
    by_cases hnext : s.EventNext
    · obtain ⟨e, rest, he, hs⟩ := hnext
      have hshorter : rest.length < n := by
        rw [← hn, hs, List.length_append, Packet.length_frame, Packet.size]
        omega
      obtain ⟨events, rest', hevents, hrest, hstop⟩ :=
        ih rest.length hshorter { s with unread := rest } rfl
      refine ⟨e :: events, rest', ?_, ?_, hstop⟩
      · intro p hp
        rcases List.mem_cons.mp hp with rfl | hp
        · exact he
        · exact hevents p hp
      · dsimp only at hrest
        rw [hs, hrest, Packet.frames_cons, List.append_assoc]
    · exact ⟨[], s.unread, by simp, rfl, hnext⟩

namespace Connection

/-- The connection once `events` have been passed over and `unread` is left to read. -/
def pass (events : List Packet) (unread : Bytes) (c : Connection) : Connection :=
  { c with
    socket := { c.socket with unread }
    journal := c.journal ++
      (events.map fun e => Log.Entry.event (.skippedMessage e.procedure)).toArray }

theorem pass_nil (c : Connection) : c.pass [] c.socket.unread = c := by
  simp [pass]

theorem pass_cons (e : Packet) (events : List Packet) (unread rest : Bytes) (c : Connection) :
    c.pass (e :: events) unread =
      (c.pass [e] rest).pass events unread := by
  simp [pass]

/-- How the frame that is next ends a call, if it is no event. -/
def settle (procedure : Procedure) (serial : UInt32) (c : Connection) :
    EStateM.Result Error Connection Bytes :=
  match c.socket.receive with
  | .error e socket => .error e { c with socket }
  | .ok body socket =>
    match Packet.decode body with
    | .error e => .error (.packet e) { c with socket }
    | .ok p =>
      match outcome procedure serial p with
      | .ok payload => .ok payload { c with socket }
      | .error e => .error e { c with socket }

variable {procedure : Procedure} {serial : UInt32}

/-- Where nothing is received, the waiting ends. -/
theorem awaitReply_refused {c : Connection} {e : Error} {socket : Socket}
    (h : c.socket.receive = .error e socket) :
    awaitReply procedure serial c = .error e { c with socket } := by
  rw [awaitReply]
  split
  · rename_i hother
    rw [h] at hother
    cases hother
    rfl
  · rename_i hother
    rw [h] at hother
    cases hother

/-- The frame that is received decides, and only an event lets the waiting go on. -/
theorem awaitReply_received {c : Connection} {body : Bytes} {socket : Socket}
    (h : c.socket.receive = .ok body socket) :
    awaitReply procedure serial c =
      match Packet.decode body with
      | .error e => .error (.packet e) { c with socket }
      | .ok p =>
        if p.kind = .message then
          awaitReply procedure serial
            (note (.skippedMessage p.procedure) { c with socket })
        else
          match outcome procedure serial p with
          | .ok payload => .ok payload { c with socket }
          | .error e => .error e { c with socket } := by
  rw [awaitReply]
  split
  · rename_i hother
    rw [h] at hother
    cases hother
  · rename_i hother
    rw [h] at hother
    cases hother
    rfl

theorem awaitReply_event {c : Connection} {e : Packet} {rest : Bytes} (he : e.IsEvent)
    (hc : c.socket.unread = e.frame ++ rest) :
    awaitReply procedure serial c = awaitReply procedure serial (c.pass [e] rest) := by
  have hreceive := Socket.receive_frame he.toTravels hc
  rw [awaitReply_received hreceive, Packet.decode_body he.program_eq]
  simp only [he.kind_eq, if_true]
  simp [pass, note]

theorem awaitReply_pass {c : Connection} {rest : Bytes} (events : List Packet)
    (hevents : ∀ e ∈ events, e.IsEvent) (hc : c.socket.unread = Packet.frames events ++ rest) :
    awaitReply procedure serial c = awaitReply procedure serial (c.pass events rest) := by
  induction events generalizing c with
  | nil =>
    have hrest : c.socket.unread = rest := hc
    rw [← hrest, pass_nil]
  | cons e events ih =>
    rw [Packet.frames_cons, List.append_assoc] at hc
    rw [awaitReply_event (hevents e List.mem_cons_self) hc,
      ih (fun p hp => hevents p (List.mem_cons_of_mem e hp)) rfl, ← pass_cons]

theorem awaitReply_eq_settle {c : Connection} (hc : ¬ c.socket.EventNext) :
    awaitReply procedure serial c = settle procedure serial c := by
  unfold settle
  cases hreceive : c.socket.receive with
  | error e socket => exact awaitReply_refused hreceive
  | ok body socket =>
    rw [awaitReply_received hreceive]
    dsimp only
    cases hdecode : Packet.decode body with
    | error e => rfl
    | ok p =>
      have hkind : p.kind ≠ .message := by
        intro hkind
        obtain ⟨htravels, hunread, -⟩ := Socket.frame_of_receive hreceive hdecode
        exact hc ⟨p, socket.unread, ⟨htravels, hkind⟩, hunread⟩
      exact if_neg hkind

/-- Waiting passes over the events that come first and settles on what is next. -/
theorem awaitReply_cases (procedure : Procedure) (serial : UInt32) (c : Connection) :
    ∃ events rest, (∀ e ∈ events, Packet.IsEvent e) ∧
      c.socket.unread = Packet.frames events ++ rest ∧
      awaitReply procedure serial c = settle procedure serial (c.pass events rest) := by
  obtain ⟨events, rest, hevents, hunread, hstop⟩ := c.socket.exists_events
  refine ⟨events, rest, hevents, hunread, ?_⟩
  rw [awaitReply_pass events hevents hunread]
  exact awaitReply_eq_settle hstop

theorem outcome_eq_ok_iff {p : Packet} {payload : Bytes} :
    outcome procedure serial p = .ok payload ↔
      (p.kind = .reply ∧ p.status = .ok ∧ p.procedure = procedure.number ∧ p.serial = serial) ∧
        p.payload = payload := by
  unfold outcome
  cases p.kind <;> cases p.status <;> grind

/-- Settling reads on and changes nothing else. -/
theorem settle_readOn (procedure : Procedure) (serial : UInt32) (c : Connection) :
    ∃ socket, c.socket.ReadOn socket ∧
      stateAfter (settle procedure serial c) = { c with socket } := by
  have hread := c.socket.receive_readOn
  refine ⟨stateAfter c.socket.receive, hread, ?_⟩
  unfold settle
  cases c.socket.receive with
  | error e socket => rfl
  | ok body socket =>
    dsimp only
    cases Packet.decode body with
    | error e => rfl
    | ok p =>
      dsimp only
      cases outcome procedure serial p <;> rfl

/-- Settling succeeds only on the reply. -/
theorem settle_ok {c c' : Connection} {payload : Bytes}
    (h : settle procedure serial c = .ok payload c') :
    ∃ p : Packet, p.RepliesTo procedure serial ∧ p.payload = payload ∧
      c.socket.unread = p.frame ++ c'.socket.unread := by
  unfold settle at h
  cases hreceive : c.socket.receive with
  | error e socket =>
    rw [hreceive] at h
    cases h
  | ok body socket =>
    rw [hreceive] at h
    dsimp only at h
    cases hdecode : Packet.decode body with
    | error e =>
      rw [hdecode] at h
      cases h
    | ok p =>
      rw [hdecode] at h
      dsimp only at h
      cases houtcome : outcome procedure serial p with
      | error e =>
        rw [houtcome] at h
        cases h
      | ok answer =>
        rw [houtcome] at h
        cases h
        obtain ⟨htravels, hunread, -⟩ := Socket.frame_of_receive hreceive hdecode
        obtain ⟨⟨hkind, hstatus, hprocedure, hserial⟩, hpayload⟩ := outcome_eq_ok_iff.mp houtcome
        exact ⟨p, ⟨htravels, hkind, hstatus, hprocedure, hserial⟩, hpayload, hunread⟩

/-- The reply at the front of the unread bytes settles its call. -/
theorem settle_reply {c : Connection} {p : Packet} {rest : Bytes}
    (hp : p.RepliesTo procedure serial) (hc : c.socket.unread = p.frame ++ rest) :
    settle procedure serial c =
      .ok p.payload { c with socket := { c.socket with unread := rest } } := by
  have houtcome : outcome procedure serial p = .ok p.payload :=
    outcome_eq_ok_iff.mpr ⟨⟨hp.kind_eq, hp.status_eq, hp.procedure_eq, hp.serial_eq⟩, rfl⟩
  simp only [settle, Socket.receive_frame hp.toTravels hc, Packet.decode_body hp.program_eq,
    houtcome]

/-- A call takes its serial before its packet is made. -/
def begin (procedure : Procedure) (c : Connection) : Connection :=
  note (.call procedure c.serial) { c with serial := c.serial + 1 }

def sending (p : Packet) (c : Connection) : Connection :=
  { c with socket := { c.socket with sent := c.socket.sent.push p.frame } }

def outgoing (procedure : Procedure) (payload : Bytes) (c : Connection) : Packet :=
  Packet.call procedure.number c.serial payload

variable {payload : Bytes} {c : Connection}

/-- A call takes its serial, makes its packet, sends it and waits, in this order. -/
theorem call_eq (procedure : Procedure) (payload : Bytes) (c : Connection) :
    call procedure payload c =
      match (c.outgoing procedure payload).encode with
      | .error e => .error (.packet e) (c.begin procedure)
      | .ok frame =>
        match Socket.send frame c.socket with
        | .error e socket => .error e { c.begin procedure with socket }
        | .ok () socket =>
          awaitReply procedure c.serial { c.begin procedure with socket } := by
  have hbegun : call procedure payload c =
      (match (c.outgoing procedure payload).encode with
        | .error e => throw (.packet e)
        | .ok frame => do
          onSocket (Socket.send frame)
          awaitReply procedure c.serial : Dialogue Bytes) (c.begin procedure) := rfl
  rw [hbegun]
  cases (c.outgoing procedure payload).encode with
  | error e => rfl
  | ok frame =>
    have hsocket : (c.begin procedure).socket = c.socket := rfl
    simp only [Bind.bind, EStateM.bind, onSocket, hsocket]
    cases Socket.send frame c.socket <;> rfl

/-- A packet that is too large costs a serial and a record, and nothing else. -/
theorem call_tooLarge (h : packetMaximum < (c.outgoing procedure payload).size) :
    call procedure payload c =
      .error (.packet (.tooLarge (c.outgoing procedure payload).size)) (c.begin procedure) := by
  rw [call_eq, Packet.encode_of_lt h]

/-- A packet that cannot be sent costs no more. -/
theorem call_unsendable (h : (c.outgoing procedure payload).size ≤ packetMaximum)
    (hc : ¬ c.socket.CanSend) :
    call procedure payload c = .error (.stream .brokenPipe) (c.begin procedure) := by
  rw [call_eq, Packet.encode_of_le h]
  simp only [Socket.send_stopped hc]
  rfl

theorem call_sends (h : (c.outgoing procedure payload).size ≤ packetMaximum)
    (hc : c.socket.CanSend) :
    call procedure payload c = awaitReply procedure c.serial
      ((c.begin procedure).sending (c.outgoing procedure payload)) := by
  rw [call_eq, Packet.encode_of_le h]
  simp only [Socket.send_frame hc]
  rfl

def posted (procedure : Procedure) (payload : Bytes) (c : Connection) : Socket :=
  if (c.outgoing procedure payload).size ≤ packetMaximum ∧ c.socket.CanSend then
    (c.sending (c.outgoing procedure payload)).socket
  else c.socket

/-- Whatever becomes of a call, it uses up one serial, and after its packet it only reads on. -/
theorem call_after (procedure : Procedure) (payload : Bytes) (c : Connection) :
    (stateAfter (call procedure payload c)).serial = c.serial + 1 ∧
      (c.posted procedure payload).ReadOn (stateAfter (call procedure payload c)).socket := by
  by_cases hsize : (c.outgoing procedure payload).size ≤ packetMaximum
  · by_cases hsend : c.socket.CanSend
    · rw [call_sends hsize hsend, posted, if_pos ⟨hsize, hsend⟩]
      obtain ⟨events, rest, -, hunread, hawait⟩ := awaitReply_cases procedure c.serial
        ((c.begin procedure).sending (c.outgoing procedure payload))
      rw [hawait]
      obtain ⟨socket, hread, hstate⟩ := settle_readOn procedure c.serial
        (((c.begin procedure).sending (c.outgoing procedure payload)).pass events rest)
      rw [hstate]
      have hrest : rest <:+ c.socket.unread := ⟨Packet.frames events, hunread.symm⟩
      exact ⟨rfl, hread.suffix.trans hrest, hread.sent_eq, hread.writeShut_eq, hread.peerGone_eq⟩
    · rw [call_unsendable hsize hsend, posted, if_neg fun h => hsend h.2]
      exact ⟨rfl, .refl _⟩
  · rw [call_tooLarge (Nat.lt_of_not_le hsize), posted, if_neg fun h => hsize h.1]
    exact ⟨rfl, .refl _⟩

/-- A call that succeeds sent its packet, passed over events, and read its reply last. -/
theorem call_ok {c' : Connection} {answer : Bytes}
    (h : call procedure payload c = .ok answer c') :
    ∃ (events : List Packet) (reply : Packet),
      (∀ e ∈ events, e.IsEvent) ∧ reply.RepliesTo procedure c.serial ∧ reply.payload = answer ∧
      c.socket.unread = Packet.frames events ++ (reply.frame ++ c'.socket.unread) ∧
      (c.outgoing procedure payload).size ≤ packetMaximum ∧
      c'.socket.sent = c.socket.sent.push (c.outgoing procedure payload).frame := by
  have hafter := (call_after procedure payload c).2
  rw [h, stateAfter] at hafter
  by_cases hsize : (c.outgoing procedure payload).size ≤ packetMaximum
  · by_cases hsend : c.socket.CanSend
    · rw [call_sends hsize hsend] at h
      obtain ⟨events, rest, hevents, hunread, hawait⟩ := awaitReply_cases procedure c.serial
        ((c.begin procedure).sending (c.outgoing procedure payload))
      rw [hawait] at h
      obtain ⟨reply, hreply, hpayload, hrest⟩ := settle_ok h
      rw [posted, if_pos ⟨hsize, hsend⟩] at hafter
      refine ⟨events, reply, hevents, hreply, hpayload, ?_, hsize, hafter.sent_eq⟩
      exact hunread.trans (congrArg (Packet.frames events ++ ·) hrest)
    · rw [call_unsendable hsize hsend] at h
      cases h
  · rw [call_tooLarge (Nat.lt_of_not_le hsize)] at h
    cases h

/-- A call gets the reply that is on its way, behind whatever events come first. -/
theorem call_replied {events : List Packet} {reply : Packet} {rest : Bytes}
    (hsize : (c.outgoing procedure payload).size ≤ packetMaximum) (hsend : c.socket.CanSend)
    (hevents : ∀ e ∈ events, e.IsEvent) (hreply : reply.RepliesTo procedure c.serial)
    (hc : c.socket.unread = Packet.frames events ++ (reply.frame ++ rest)) :
    ∃ c', call procedure payload c = .ok reply.payload c' ∧
      c'.line = ⟨{ (c.sending (c.outgoing procedure payload)).socket with unread := rest },
        c.serial + 1⟩ := by
  let sent := (c.begin procedure).sending (c.outgoing procedure payload)
  have hsent : sent.socket.unread = Packet.frames events ++ (reply.frame ++ rest) := hc
  have hnext : ¬ (sent.pass events (reply.frame ++ rest)).socket.EventNext := by
    refine Socket.not_eventNext hreply.toTravels ?_ rfl
    rw [hreply.kind_eq]
    exact Packet.Kind.noConfusion
  rw [call_sends hsize hsend, awaitReply_pass events hevents hsent, awaitReply_eq_settle hnext,
    settle_reply hreply rfl]
  exact ⟨_, rfl, rfl⟩

section Request

variable {args : Xdr.Datum} {reply : Xdr.Reader α}

/-- Once its arguments are written, a request is a call and what is read of its answer. -/
theorem request_encoded (reply : Xdr.Reader α) (hargs : args.encode = .ok payload)
    (c : Connection) :
    request procedure args reply c =
      match call procedure payload c with
      | .error e c' => .error e c'
      | .ok answer c' =>
        match reply answer with
        | .ok a _ => .ok a c'
        | .error e _ => .error (.xdr e) c' := by
  simp only [request, hargs, Bind.bind, EStateM.bind]
  cases call procedure payload c with
  | error e c' => rfl
  | ok answer c' =>
    dsimp only
    cases reply answer <;> rfl

/-- Reading the answer to a call leaves the connection as the call leaves it. -/
theorem stateAfter_request (reply : Xdr.Reader α) (hargs : args.encode = .ok payload)
    (c : Connection) :
    stateAfter (request procedure args reply c) = stateAfter (call procedure payload c) := by
  rw [request_encoded reply hargs]
  cases call procedure payload c with
  | error e c' => rfl
  | ok answer c' =>
    dsimp only
    cases reply answer <;> rfl

/-- Arguments that cannot be written do not even cost a serial. -/
theorem request_unwritable {e : Xdr.Error} (reply : Xdr.Reader α) (hargs : args.encode = .error e)
    (c : Connection) : request procedure args reply c = .error (.xdr e) c := by
  simp only [request, hargs]
  rfl

/-- A request that succeeds has read the answer to its call. -/
theorem request_ok {a : α} {c' : Connection} (hargs : args.encode = .ok payload)
    (h : request procedure args reply c = .ok a c') :
    ∃ data rest, call procedure payload c = .ok data c' ∧ reply data = .ok a rest := by
  rw [request_encoded reply hargs] at h
  cases hcall : call procedure payload c with
  | error e d =>
    rw [hcall] at h
    cases h
  | ok data d =>
    rw [hcall] at h
    dsimp only at h
    cases hread : reply data with
    | error e rest =>
      rw [hread] at h
      cases h
    | ok b rest =>
      rw [hread] at h
      cases h
      exact ⟨data, rest, rfl, hread⟩

/-- A request that fails has no answer to its call or could not read it. -/
theorem request_error {e : Error} {c' : Connection} (hargs : args.encode = .ok payload)
    (h : request procedure args reply c = .error e c') :
    call procedure payload c = .error e c' ∨
      ∃ data cause rest,
        call procedure payload c = .ok data c' ∧ reply data = .error cause rest := by
  rw [request_encoded reply hargs] at h
  cases hcall : call procedure payload c with
  | error e d =>
    rw [hcall] at h
    cases h
    exact Or.inl rfl
  | ok data d =>
    rw [hcall] at h
    dsimp only at h
    cases hread : reply data with
    | ok a rest =>
      rw [hread] at h
      cases h
    | error cause rest =>
      rw [hread] at h
      cases h
      exact Or.inr ⟨data, cause, rest, rfl, hread⟩

/-- A request reads the reply that is on its way. -/
theorem request_replied {a : α} {events : List Packet} {p : Packet} {rest rest' : Bytes}
    (hargs : args.encode = .ok payload)
    (hsize : (c.outgoing procedure payload).size ≤ packetMaximum) (hsend : c.socket.CanSend)
    (hevents : ∀ e ∈ events, e.IsEvent) (hp : p.RepliesTo procedure c.serial)
    (hc : c.socket.unread = Packet.frames events ++ (p.frame ++ rest))
    (hread : reply p.payload = .ok a rest') :
    ∃ c', request procedure args reply c = .ok a c' ∧
      c'.line = ⟨{ (c.sending (c.outgoing procedure payload)).socket with unread := rest },
        c.serial + 1⟩ := by
  obtain ⟨c', hcall, hline⟩ := call_replied hsize hsend hevents hp hc
  refine ⟨c', ?_, hline⟩
  rw [request_encoded reply hargs, hcall]
  simp only [hread]

end Request

end Connection

end GuestInventory.Remote
