import GuestInventory.Proofs.Calls
import GuestInventory.Proofs.Messages

/-!
Arguments on their way out. The writer puts no limit on a string and cuts its length down to a
word, but a call whose packet is too large sends nothing. In a packet that is sent every length
word is right and every string keeps within the limit of its reader, so that the arguments can be
read back whatever they are.
-/
namespace GuestInventory.Remote

open Xdr (ConveysWithin Datum Fits Layout Part stringMaximum utf8)

theorem OpenArgs.datum_injective {a b : OpenArgs} (h : a.datum = b.datum) : a = b := by
  obtain ⟨name, flags⟩ := a
  obtain ⟨name', flags'⟩ := b
  simp only [datum, Datum.uint32, Datum.record.injEq, List.cons.injEq, Datum.scalar.injEq,
    Xdr.Scalar.uint32.injEq, and_true] at h
  obtain ⟨hname, rfl⟩ := h
  cases name <;> cases name' <;> simp_all [Datum.option]

theorem Domain.datum_injective {a b : Domain} (h : a.datum = b.datum) : a = b := by
  obtain ⟨name, ⟨bytes, hbytes⟩, id⟩ := a
  obtain ⟨name', ⟨bytes', hbytes'⟩, id'⟩ := b
  simpa [datum, Datum.uuid, Datum.int32] using h

theorem AddressSource.number_injective {s t : AddressSource} (h : s.number = t.number) : s = t := by
  cases s <;> cases t <;> simp_all [number]

theorem AddressesArgs.datum_injective {a b : AddressesArgs} (h : a.datum = b.datum) : a = b := by
  obtain ⟨domain, source, flags⟩ := a
  obtain ⟨domain', source', flags'⟩ := b
  simp only [datum, Datum.uint32, Datum.record.injEq, List.cons.injEq, Datum.scalar.injEq,
    Xdr.Scalar.uint32.injEq, and_true] at h
  obtain ⟨hdomain, hsource, rfl⟩ := h
  rw [Domain.datum_injective hdomain, AddressSource.number_injective hsource]

inductive Arguments
  | opening (a : OpenArgs)
  | listing (a : ListArgs)
  | lookup (a : LookupArgs)
  | addresses (a : AddressesArgs)

namespace Arguments

inductive Form
  | opening
  | listing
  | lookup
  | addresses

def form : Arguments → Form
  | opening _ => .opening
  | listing _ => .listing
  | lookup _ => .lookup
  | addresses _ => .addresses

def Form.layout : Form → Layout
  | opening => .record [.option .string, .scalar .uint32]
  | listing => .record [.scalar .int32]
  | lookup => .record [.scalar .int32]
  | addresses =>
    .record [.record [.string, .sixteen, .scalar .int32], .scalar .uint32, .scalar .uint32]

def datum : Arguments → Datum
  | opening a => a.datum
  | listing a => a.datum
  | lookup a => a.datum
  | addresses a => a.datum

def texts : Arguments → List String
  | opening a => a.name.toList
  | listing _ => []
  | lookup _ => []
  | addresses a => [a.domain.name]

theorem plain (a : Arguments) : a.datum.Plain := by
  cases a with
  | opening a => exact a.plain
  | listing a => exact a.plain
  | lookup a => exact a.plain
  | addresses a => exact a.plain

/-- Strings are written out in full. -/
theorem length_text_le (a : Arguments) : ∀ s ∈ a.texts,
    (utf8 s).length ≤ a.datum.wire.length := by
  cases a with
  | opening a =>
    obtain ⟨name, flags⟩ := a
    have hname := ConveysWithin.optional name
    have hfields : ∀ d ∈ [Datum.option .string name, .uint32 flags], d.Plain :=
      List.forall_mem_cons.mpr ⟨hname.plain, List.forall_mem_singleton.mpr (Datum.plain_scalar _)⟩
    intro s hs
    have hpart : Part.text s ∈ name.toList.map .text := List.mem_map_of_mem hs
    exact Nat.le_trans (hname.text_le s hpart)
      (Datum.length_wire_le_record hfields List.mem_cons_self)
  | listing a => exact List.forall_mem_nil _
  | lookup a => exact List.forall_mem_nil _
  | addresses a =>
    obtain ⟨domain, source, flags⟩ := a
    have hdomain := domain.conveysWithin
    have hfields : ∀ d ∈ [domain.datum, .uint32 source.number, .uint32 flags], d.Plain := by
      simp only [List.mem_cons, List.not_mem_nil, or_false, forall_eq_or_imp, forall_eq]
      exact ⟨hdomain.plain, Datum.plain_scalar _, Datum.plain_scalar _⟩
    refine List.forall_mem_singleton.mpr ?_
    exact Nat.le_trans (hdomain.text_le domain.name List.mem_cons_self)
      (Datum.length_wire_le_record hfields List.mem_cons_self)

/-- Arguments fit the layout of their form as soon as their strings do. -/
theorem fits (a : Arguments) (h : ∀ s ∈ a.texts, (utf8 s).length ≤ stringMaximum) :
    Fits a.form.layout a.datum := by
  cases a with
  | opening a =>
    obtain ⟨name, flags⟩ := a
    refine .record rfl ?_
    simp only [List.zip_cons_cons, List.zip_nil_left, List.mem_cons, List.not_mem_nil, or_false,
      forall_eq_or_imp, forall_eq]
    refine ⟨?_, .scalar (.uint32 flags)⟩
    cases name with
    | none => exact .absent .string
    | some s => exact .present (.string s (h s List.mem_cons_self))
  | listing a =>
    refine .record rfl ?_
    simp only [List.zip_cons_cons, List.zip_nil_left, List.mem_singleton, forall_eq]
    exact .scalar (.int32 a.maximum)
  | lookup a =>
    refine .record rfl ?_
    simp only [List.zip_cons_cons, List.zip_nil_left, List.mem_singleton, forall_eq]
    exact .scalar (.int32 a.id)
  | addresses a =>
    obtain ⟨domain, source, flags⟩ := a
    refine .record rfl ?_
    simp only [List.zip_cons_cons, List.zip_nil_left, List.mem_cons, List.not_mem_nil, or_false,
      forall_eq_or_imp, forall_eq]
    refine ⟨.record rfl ?_, .scalar (.uint32 source.number), .scalar (.uint32 flags)⟩
    simp only [List.zip_cons_cons, List.zip_nil_left, List.mem_cons, List.not_mem_nil, or_false,
      forall_eq_or_imp, forall_eq]
    exact ⟨.string domain.name (h _ List.mem_cons_self),
      .sixteen domain.uuid.bytes domain.uuid.length_bytes, .scalar (.int32 domain.id)⟩

/-- No two arguments of one form have the same datum. -/
theorem datum_injective {a b : Arguments} (hform : a.form = b.form) (h : a.datum = b.datum) :
    a = b := by
  cases a with
  | opening a =>
    cases b with
    | opening b => rw [OpenArgs.datum_injective h]
    | _ => cases hform
  | listing a =>
    cases b with
    | listing b =>
      have hmaximum : a.maximum = b.maximum := by simpa [datum, ListArgs.datum, Datum.int32] using h
      exact congrArg (fun n => listing ⟨n⟩) hmaximum
    | _ => cases hform
  | lookup a =>
    cases b with
    | lookup b =>
      have hid : a.id = b.id := by simpa [datum, LookupArgs.datum, Datum.int32] using h
      exact congrArg (fun n => lookup ⟨n⟩) hid
    | _ => cases hform
  | addresses a =>
    cases b with
    | addresses b => rw [AddressesArgs.datum_injective h]
    | _ => cases hform

end Arguments

/-- Whatever is decoded, it is not its size that is found fault with. -/
theorem Packet.decode_ne_tooLarge (data : Bytes) (n : Nat) :
    Packet.decode data ≠ .error (.tooLarge n) := by
  unfold Packet.decode
  split
  · simp
  · split
    · simp
    · split <;> simp

/-- Receiving knows nothing of packets, so what it fails with is no fault of one. -/
theorem Socket.receive_ne_packet (s s' : Socket) (e : Packet.Error) :
    s.receive ≠ .error (.packet e) s' := by
  unfold Socket.receive Socket.runOut
  split
  · dsimp only
    split
    · simp
    · split
      · simp
      · split <;> simp
  · split <;> simp

namespace Connection

theorem outcome_ne_packet (procedure : Procedure) (serial : UInt32) (p : Packet)
    (e : Packet.Error) : outcome procedure serial p ≠ .error (.packet e) := by
  unfold outcome
  split
  · split
    · simp
    · split
      · simp
      · unfold replyError
        split <;> simp
      · simp
  · simp

/-- Waiting for a reply is not where a packet turns out too large. -/
theorem awaitReply_ne_tooLarge (procedure : Procedure) (serial : UInt32) (c c' : Connection)
    (n : Nat) : awaitReply procedure serial c ≠ .error (.packet (.tooLarge n)) c' := by
  obtain ⟨events, rest, -, -, hawait⟩ := awaitReply_cases procedure serial c
  rw [hawait, settle]
  cases hreceive : (c.pass events rest).socket.receive with
  | error e s =>
    intro h
    cases h
    exact Socket.receive_ne_packet _ _ _ hreceive
  | ok body s =>
    dsimp only
    cases hdecode : Packet.decode body with
    | error e =>
      intro h
      cases h
      exact Packet.decode_ne_tooLarge _ _ hdecode
    | ok p =>
      dsimp only
      cases houtcome : outcome procedure serial p with
      | error e =>
        intro h
        cases h
        exact outcome_ne_packet _ _ _ _ houtcome
      | ok payload =>
        intro h
        cases h

theorem request_tooLarge {procedure : Procedure} {args : Datum} {payload : Bytes}
    (hargs : args.encode = .ok payload) (reply : Xdr.Reader α) {c : Connection}
    (hsize : packetMaximum < (c.outgoing procedure payload).size) :
    request procedure args reply c =
      .error (.packet (.tooLarge (c.outgoing procedure payload).size)) (c.begin procedure) := by
  rw [request_encoded reply hargs, call_tooLarge hsize]

/-- Nor is a request too large whose packet could be sent. -/
theorem request_ne_tooLarge {procedure : Procedure} {args : Datum} {payload : Bytes}
    (hargs : args.encode = .ok payload) (reply : Xdr.Reader α) {c : Connection}
    (hsize : (c.outgoing procedure payload).size ≤ packetMaximum) (hsend : c.socket.CanSend)
    (n : Nat) (c' : Connection) :
    request procedure args reply c ≠ .error (.packet (.tooLarge n)) c' := by
  rw [request_encoded reply hargs, call_sends hsize hsend]
  cases hawait : awaitReply procedure c.serial
      ((c.begin procedure).sending (c.outgoing procedure payload)) with
  | error e d =>
    intro h
    cases h
    exact awaitReply_ne_tooLarge _ _ _ _ _ hawait
  | ok answer d =>
    dsimp only
    cases reply answer with
    | ok a rest =>
      intro h
      cases h
    | error e rest =>
      intro h
      cases h

/-- A request that sends has one frame more in what was sent, whatever the answer. -/
theorem request_sent {procedure : Procedure} {args : Datum} {payload : Bytes}
    (hargs : args.encode = .ok payload) (reply : Xdr.Reader α) {c : Connection}
    (hsize : (c.outgoing procedure payload).size ≤ packetMaximum) (hsend : c.socket.CanSend) :
    (stateAfter (request procedure args reply c)).socket.sent =
      c.socket.sent.push (c.outgoing procedure payload).frame := by
  rw [stateAfter_request reply hargs, (call_after procedure payload c).2.sent_eq, posted,
    if_pos ⟨hsize, hsend⟩]
  rfl

end Connection

/-- A frame from which the arguments of a call can be read back. -/
structure Carries (a : Arguments) (procedure : Procedure) (serial : UInt32) (frame : Bytes) :
    Prop where
  /-- The frame is received as one body, whatever follows it, and the body decodes. -/
  packet : ∃ body p, (∀ rest, Socket.receive { unread := frame ++ rest } =
      .ok body { unread := rest }) ∧
    Packet.decode body = .ok p ∧ p.kind = .call ∧ p.status = .ok ∧
    p.procedure = procedure.number ∧ p.serial = serial ∧
    a.form.layout.read p.payload = .ok a.datum []
  called : ∃ payload, a.datum.encode = .ok payload ∧ procedure.CalledWith serial payload frame
  unique : ∀ b : Arguments, b.form = a.form → b.datum = a.datum → b = a
  /-- No length word is cut down, and no string is too long to be read. -/
  texts : ∀ s ∈ a.texts, (utf8 s).length ≤ stringMaximum ∧
    (UInt32.ofNat (utf8 s).length).toNat = (utf8 s).length

/-- A frame in which a procedure is called with arguments carries them. -/
theorem carries_of_calledWith {a : Arguments} {procedure : Procedure} {serial : UInt32}
    {payload frame : Bytes} (hencode : a.datum.encode = .ok payload)
    (hframe : procedure.CalledWith serial payload frame) : Carries a procedure serial frame := by
  obtain rfl : a.datum.wire = payload := Except.ok.inj (a.plain.encode.symm.trans hencode)
  obtain ⟨hsize, rfl⟩ := Procedure.calledWith_iff.mp hframe
  let p := Packet.call procedure.number serial a.datum.wire
  have htext (s : String) (hs : s ∈ a.texts) : (utf8 s).length ≤ stringMaximum := by
    have hwire := a.length_text_le s hs
    unfold packetMaximum at hsize
    unfold stringMaximum
    omega
  refine ⟨⟨p.body, p, ?_, ?_, rfl, rfl, rfl, rfl, ?_⟩, ⟨_, hencode, hframe⟩, ?_, ?_⟩
  · intro rest
    exact Socket.receive_frame ⟨rfl, hsize⟩ rfl
  · exact Packet.decode_body rfl
  · exact (Layout.conveys_of_fits (a.fits htext)).read
  · intro b hform hdatum
    exact Arguments.datum_injective hform hdatum
  · intro s hs
    exact ⟨htext s hs, UInt32.toNat_ofNat_of_lt' (Nat.lt_of_le_of_lt (htext s hs) (by decide))⟩

/-- No frame carries two arguments of one form. -/
theorem Carries.arguments_eq {a b : Arguments} {procedure procedure' : Procedure}
    {n n' : UInt32} {frame : Bytes} (ha : Carries a procedure n frame)
    (hb : Carries b procedure' n' frame) (hform : a.form = b.form) : a = b := by
  obtain ⟨body, p, hbody, hp, -, -, -, -, hread⟩ := ha.packet
  obtain ⟨body', p', hbody', hp', -, -, -, -, hread'⟩ := hb.packet
  cases (hbody []).symm.trans (hbody' [])
  cases hp.symm.trans hp'
  rw [hform, hread'] at hread
  injection hread with hdatum
  exact Arguments.datum_injective hform hdatum.symm

/-- A call with arguments of any size, on a connection that can send, fails and sends nothing if
its packet is too large, and otherwise sends one frame that carries the arguments. -/
theorem arguments_come_through (a : Arguments) (procedure : Procedure) (reply : Xdr.Reader α)
    (c : Connection) (hsend : c.socket.CanSend) :
    ∃ payload, a.datum.encode = .ok payload ∧
      ((∃ n c', Connection.request procedure a.datum reply c =
        .error (.packet (.tooLarge n)) c') ↔ packetMaximum < 28 + payload.length) ∧
      (∀ n c', Connection.request procedure a.datum reply c =
        .error (.packet (.tooLarge n)) c' → n = 28 + payload.length ∧ c'.socket = c.socket) ∧
      (28 + payload.length ≤ packetMaximum → ∃ frame,
        (stateAfter (Connection.request procedure a.datum reply c)).socket.sent =
          c.socket.sent.push frame ∧
        Carries a procedure c.serial frame) := by
  have hencode := a.plain.encode
  refine ⟨a.datum.wire, hencode, ?_⟩
  by_cases hsize : packetMaximum < 28 + a.datum.wire.length
  · have hrequest : Connection.request procedure a.datum reply c =
        .error (.packet (.tooLarge (28 + a.datum.wire.length))) (c.begin procedure) :=
      Connection.request_tooLarge hencode reply hsize
    refine ⟨iff_of_true ⟨_, _, hrequest⟩ hsize, ?_, ?_⟩
    · intro n c' h
      rw [hrequest] at h
      cases h
      exact ⟨rfl, rfl⟩
    · intro hle
      exact absurd hsize (Nat.not_lt.mpr hle)
  · have hle := Nat.le_of_not_lt hsize
    have hne (n : Nat) (c' : Connection) : Connection.request procedure a.datum reply c ≠
        .error (.packet (.tooLarge n)) c' :=
      Connection.request_ne_tooLarge hencode reply hle hsend n c'
    refine ⟨iff_of_false ?_ hsize, ?_, ?_⟩
    · rintro ⟨n, c', h⟩
      exact hne n c' h
    · intro n c' h
      exact absurd h (hne n c')
    · intro _
      exact ⟨_, Connection.request_sent hencode reply hle hsend,
        carries_of_calledWith hencode (Procedure.calledWith_frame hle)⟩

def named (n : Nat) : Arguments :=
  .opening { name := some (String.ofList (List.replicate n 'a')), flags := 0 }

theorem length_wire_named (n : Nat) :
    (named n).datum.wire.length = 12 + n + (Bytes.padding n).length := by
  let s := String.ofList (List.replicate n 'a')
  have hname : (utf8 s).length = n := by
    have hletter : 'a'.utf8Size = 1 := rfl
    simp [s, utf8, List.utf8Encode, hletter]
  have hwire : (named n).datum.wire = Bytes.ofWord 1 ++
      (Bytes.ofWord (UInt32.ofNat (utf8 s).length) ++ (utf8 s ++ Bytes.padding (utf8 s).length)) ++
        (Bytes.ofWord 0 ++ []) := rfl
  rw [hwire, hname]
  simp only [List.length_append, Bytes.length_ofWord, hname, List.length_nil]
  omega

/-- A name that fills the largest packet goes out, and one letter more does not. -/
theorem arguments_come_through_boundary :
    let c : Connection := { socket := { unread := [] } }
    c.socket.CanSend ∧
    (∃ frame,
      (stateAfter (Connection.request .connectOpen (named 4194264).datum
        (pure () : Xdr.Reader Unit) c)).socket.sent = #[frame] ∧
      Carries (named 4194264) .connectOpen 1 frame) ∧
    ∃ n c', Connection.request .connectOpen (named 4194265).datum (pure () : Xdr.Reader Unit) c =
        .error (.packet (.tooLarge n)) c' ∧ n = 4194308 ∧ c'.socket = c.socket := by
  intro c
  have hsend : c.socket.CanSend := ⟨rfl, rfl⟩
  refine ⟨hsend, ?_, ?_⟩
  · obtain ⟨payload, hencode, -, -, hsent⟩ :=
      arguments_come_through (named 4194264) .connectOpen (pure () : Xdr.Reader Unit) c hsend
    obtain rfl : (named 4194264).datum.wire = payload :=
      Except.ok.inj ((named 4194264).plain.encode.symm.trans hencode)
    rw [length_wire_named] at hsent
    exact hsent (by decide)
  · obtain ⟨payload, hencode, hiff, herror, -⟩ :=
      arguments_come_through (named 4194265) .connectOpen (pure () : Xdr.Reader Unit) c hsend
    obtain rfl : (named 4194265).datum.wire = payload :=
      Except.ok.inj ((named 4194265).plain.encode.symm.trans hencode)
    rw [length_wire_named] at hiff herror
    obtain ⟨n, c', h⟩ := hiff.mpr (by decide)
    exact ⟨n, c', h, herror n c' h⟩

end GuestInventory.Remote
