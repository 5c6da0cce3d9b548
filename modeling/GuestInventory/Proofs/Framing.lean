import GuestInventory.Proofs.Reading
import GuestInventory.Remote.Socket

/-!
Packets as frames on a stream. Decoding a body and writing one are inverse to each other, so that
what a socket receives can be said in terms of the packets whose frames begin the unread bytes.
-/
namespace GuestInventory.Remote

open Xdr (Reads bind_eq_ok eq_of_word_ok)

namespace Packet

def frame (p : Packet) : Bytes := Bytes.ofWord (UInt32.ofNat p.size) ++ p.body

/-- The packets that travel: those of the remote program that are not too large. -/
structure Travels (p : Packet) : Prop where
  program_eq : p.program = 0x20008086
  size_le : p.size ≤ 4194304

theorem encode_of_le {p : Packet} (h : p.size ≤ packetMaximum) : p.encode = .ok p.frame :=
  if_neg (Nat.not_lt.mpr h)

theorem encode_of_lt {p : Packet} (h : packetMaximum < p.size) :
    p.encode = .error (.tooLarge p.size) :=
  if_pos h

theorem length_body (p : Packet) : p.body.length = 24 + p.payload.length := by
  simp only [body, List.length_append, Bytes.length_ofWord]
  omega

theorem length_frame (p : Packet) : p.frame.length = p.size := by
  simp only [frame, List.length_append, Bytes.length_ofWord, length_body, size]
  omega

theorem ofNumber?_kind (k : Kind) : Kind.ofNumber? k.number = some k := by
  cases k <;> rfl

theorem ofNumber?_status (s : Status) : Status.ofNumber? s.number = some s := by
  cases s <;> rfl

theorem number_of_kind {n : UInt32} {k : Kind} (h : Kind.ofNumber? n = some k) :
    n = k.number := by
  unfold Kind.ofNumber? at h
  grind [Kind.number]

theorem number_of_status {n : UInt32} {s : Status} (h : Status.ofNumber? n = some s) :
    n = s.number := by
  unfold Status.ofNumber? at h
  grind [Status.number]

def Header.bytes (h : Header) : Bytes :=
  Bytes.ofWord h.program ++ (Bytes.ofWord h.version ++ (Bytes.ofWord h.procedure ++
    (Bytes.ofWord h.kind ++ (Bytes.ofWord h.serial ++ Bytes.ofWord h.status))))

theorem Header.reads (h : Header) : Reads Header.read h.bytes h :=
  (Reads.word _).bind <| (Reads.word _).bind <| (Reads.word _).bind <| (Reads.word _).bind <|
    (Reads.word _).bind <| (Reads.word _).bind_pure rfl

theorem Header.eq_of_read_ok {data payload : Bytes} {h : Header}
    (hread : Header.read data = .ok h payload) : data = h.bytes ++ payload := by
  obtain ⟨program, r1, h1, hread⟩ := bind_eq_ok.mp hread
  obtain ⟨version, r2, h2, hread⟩ := bind_eq_ok.mp hread
  obtain ⟨procedure, r3, h3, hread⟩ := bind_eq_ok.mp hread
  obtain ⟨kind, r4, h4, hread⟩ := bind_eq_ok.mp hread
  obtain ⟨serial, r5, h5, hread⟩ := bind_eq_ok.mp hread
  obtain ⟨status, r6, h6, hread⟩ := bind_eq_ok.mp hread
  cases hread
  rw [eq_of_word_ok h1, eq_of_word_ok h2, eq_of_word_ok h3, eq_of_word_ok h4, eq_of_word_ok h5,
    eq_of_word_ok h6]
  simp only [Header.bytes, List.append_assoc]

def header (p : Packet) : Header where
  program := p.program
  version := p.version
  procedure := p.procedure
  kind := p.kind.number
  serial := p.serial
  status := p.status.number

theorem body_eq (p : Packet) : p.body = p.header.bytes ++ p.payload := by
  simp only [body, header, Header.bytes, List.append_assoc]

/-- What a packet of the program is written as is read as that packet. -/
theorem decode_body {p : Packet} (h : p.program = Remote.program) : decode p.body = .ok p := by
  rw [body_eq, decode, p.header.reads p.payload]
  simp only [header, h, ofNumber?_kind, ofNumber?_status, ne_eq, not_true_eq_false, if_false]
  rw [← h]

/-- A body that decodes is the body of the packet it decodes to. -/
theorem eq_body_of_decode {data : Bytes} {p : Packet} (h : decode data = .ok p) :
    data = p.body ∧ p.program = Remote.program := by
  unfold decode at h
  split at h
  · cases h
  · rename_i header payload hread
    have hdata := Header.eq_of_read_ok hread
    split at h
    · cases h
    · rename_i hprogram
      split at h
      · rename_i kind status hkind hstatus
        cases h
        refine ⟨?_, by simpa using hprogram⟩
        rw [hdata, body_eq]
        simp only [Packet.header, ← number_of_kind hkind, ← number_of_status hstatus]
      · cases h
      · cases h

end Packet

def stateAfter : EStateM.Result ε σ α → σ
  | .ok _ s => s
  | .error _ s => s

namespace Socket

/-- `s'` differs from `s` only in what has been read off the stream since, and in whether a
departure of the other end is still to be told. -/
structure ReadOn (s s' : Socket) : Prop where
  suffix : s'.unread <:+ s.unread
  sent_eq : s'.sent = s.sent
  writeShut_eq : s'.writeShut = s.writeShut
  peerGone_eq : s'.peerGone = s.peerGone

theorem ReadOn.refl (s : Socket) : ReadOn s s := ⟨List.suffix_refl _, rfl, rfl, rfl⟩

theorem runOut_readOn (e : Error) (s : Socket) :
    ReadOn s (stateAfter (s.runOut e : EStateM.Result Error Socket α)) := by
  unfold runOut
  split <;> exact ⟨List.nil_suffix, rfl, rfl, rfl⟩

/-- Receiving only reads, whether it fails or not. -/
theorem receive_readOn (s : Socket) : ReadOn s (stateAfter s.receive) := by
  unfold receive
  split
  · rename_i a b c d rest hs
    have hrest : rest <:+ s.unread := by
      rw [hs]
      exact ⟨[a, b, c, d], rfl⟩
    dsimp only
    split
    · exact ⟨hrest, rfl, rfl, rfl⟩
    split
    · exact ⟨(List.drop_suffix _ rest).trans hrest, rfl, rfl, rfl⟩
    · exact runOut_readOn _ s
  · exact runOut_readOn _ s

/-- A frame at the front of the unread bytes is received as its body. -/
theorem receive_frame {s : Socket} {p : Packet} {rest : Bytes} (hp : p.Travels)
    (hs : s.unread = p.frame ++ rest) : s.receive = .ok p.body { s with unread := rest } := by
  have hmaximum : p.size ≤ packetMaximum := hp.size_le
  have hsize : (UInt32.ofNat p.size).toNat = p.size := by
    rw [UInt32.toNat_ofNat']
    unfold packetMaximum at hmaximum
    omega
  have hbody : p.size - 4 = p.body.length := by
    rw [Packet.length_body, Packet.size]
    omega
  simp only [Packet.frame, Bytes.ofWord, List.cons_append, List.nil_append] at hs
  unfold receive
  rw [hs]
  dsimp only
  rw [Bytes.word_ofWord, hsize, if_neg (Nat.not_lt.mpr hmaximum), hbody]
  simp

/-- A body that decodes was a frame at the front of the unread bytes. -/
theorem frame_of_receive {s s' : Socket} {body : Bytes} {p : Packet}
    (h : s.receive = .ok body s') (hdecode : Packet.decode body = .ok p) :
    p.Travels ∧ s.unread = p.frame ++ s'.unread ∧ s' = { s with unread := s'.unread } := by
  obtain ⟨rfl, hprogram⟩ := Packet.eq_body_of_decode hdecode
  unfold receive at h
  split at h
  · rename_i a b c d rest hs
    dsimp only at h
    split at h
    · cases h
    rename_i hmaximum
    split at h
    · rename_i hlength
      injection h with hbody hs'
      have hbody_length := congrArg List.length hbody
      rw [Packet.length_body, hlength] at hbody_length
      have hsize : p.size = (Bytes.word a b c d).toNat := by
        rw [Packet.size]
        omega
      have hle : p.size ≤ packetMaximum := by
        rw [hsize]
        exact Nat.le_of_not_lt hmaximum
      subst hs'
      refine ⟨⟨hprogram, hle⟩, ?_, rfl⟩
      rw [hs, Packet.frame, hsize, UInt32.ofNat_toNat, Bytes.ofWord_word, ← hbody]
      simp
    · unfold runOut at h
      split at h <;> cases h
  · unfold runOut at h
    split at h <;> cases h

def CanSend (s : Socket) : Prop := s.writeShut = false ∧ s.peerGone = false

instance (s : Socket) : Decidable s.CanSend := inferInstanceAs (Decidable (_ ∧ _))

theorem ReadOn.canSend {s s' : Socket} (h : ReadOn s s') (hs : s.CanSend) : s'.CanSend :=
  ⟨h.writeShut_eq.trans hs.1, h.peerGone_eq.trans hs.2⟩

theorem send_frame {s : Socket} (hs : s.CanSend) (p : Packet) :
    send p.frame s = .ok () { s with sent := s.sent.push p.frame } := by
  simp [send, Packet.frame, Bytes.ofWord, hs.1, hs.2]

/-- Where the way out is closed, sending fails and changes nothing. -/
theorem send_stopped {s : Socket} (hs : ¬ s.CanSend) (p : Packet) :
    send p.frame s = .error (.stream .brokenPipe) s := by
  have hclosed : (s.writeShut || s.peerGone) = true := by
    unfold CanSend at hs
    cases hshut : s.writeShut <;> cases hgone : s.peerGone <;> simp_all
  simp [send, Packet.frame, Bytes.ofWord, hclosed]

end Socket

end GuestInventory.Remote
