import GuestInventory.Proofs.Calls

/-!
Packets on a stream and packets by themselves. A stream of encoded packets is received body by
body and every body decodes to its packet; what decodes is told by the length and three of the
words, and encoding it again gives the same bytes behind their length word. Encoding and receiving
put the same limit on the size.
-/
namespace GuestInventory

/-- The word that begins at the `i`-th byte. Bytes that are missing count as zero. -/
def Bytes.wordAt (data : Bytes) (i : Nat) : UInt32 :=
  word (data.getD i 0) (data.getD (i + 1) 0) (data.getD (i + 2) 0) (data.getD (i + 3) 0)

theorem Bytes.wordAt_drop (data : Bytes) (n i : Nat) :
    wordAt (data.drop n) i = wordAt data (n + i) := by
  simp only [wordAt, List.getD_eq_getElem?_getD, List.getElem?_drop, Nat.add_assoc]

/-- Four bytes are enough to read a word. -/
theorem Xdr.word_of_le {data : Bytes} (h : 4 ≤ data.length) :
    Reader.word data = .ok (data.wordAt 0) (data.drop 4) := by
  obtain ⟨a, b, c, d, rest, rfl⟩ : ∃ a b c d rest, data = a :: b :: c :: d :: rest := by
    match data, h with
    | a :: b :: c :: d :: rest, _ => exact ⟨a, b, c, d, rest, rfl⟩
  rfl

namespace Remote

namespace Packet

def Header.ofBytes (data : Bytes) : Header where
  program := data.wordAt 0
  version := data.wordAt 4
  procedure := data.wordAt 8
  kind := data.wordAt 12
  serial := data.wordAt 16
  status := data.wordAt 20

theorem Header.read_of_le {data : Bytes} (h : 24 ≤ data.length) :
    Header.read data = .ok (.ofBytes data) (data.drop 24) := by
  have hword (n : Nat) (hn : n + 4 ≤ data.length) :
      Xdr.Reader.word (data.drop n) = .ok (data.wordAt n) (data.drop (n + 4)) := by
    rw [Xdr.word_of_le (by rw [List.length_drop]; omega), Bytes.wordAt_drop, List.drop_drop]
    rfl
  have hfirst := hword 0 (by omega)
  rw [List.drop_zero] at hfirst
  simp only [Header.read, Bind.bind, EStateM.bind, hfirst, hword 4 (by omega),
    hword 8 (by omega), hword 12 (by omega), hword 16 (by omega), hword 20 (by omega)]
  rfl

theorem exists_kind_iff (n : UInt32) : (∃ k, Kind.ofNumber? n = some k) ↔ n ≤ 3 := by
  constructor
  · rintro ⟨k, hk⟩
    rw [number_of_kind hk]
    cases k <;> decide
  · intro hn
    have hcases : n = 0 ∨ n = 1 ∨ n = 2 ∨ n = 3 := by
      have hle : n.toNat ≤ 3 := hn
      simp only [← UInt32.toNat_inj, UInt32.toNat_ofNat]
      omega
    rcases hcases with rfl | rfl | rfl | rfl
    · exact ⟨_, ofNumber?_kind .call⟩
    · exact ⟨_, ofNumber?_kind .reply⟩
    · exact ⟨_, ofNumber?_kind .message⟩
    · exact ⟨_, ofNumber?_kind .stream⟩

theorem exists_status_iff (n : UInt32) : (∃ s, Status.ofNumber? n = some s) ↔ n ≤ 2 := by
  constructor
  · rintro ⟨s, hs⟩
    rw [number_of_status hs]
    cases s <;> decide
  · intro hn
    have hcases : n = 0 ∨ n = 1 ∨ n = 2 := by
      have hle : n.toNat ≤ 2 := hn
      simp only [← UInt32.toNat_inj, UInt32.toNat_ofNat]
      omega
    rcases hcases with rfl | rfl | rfl
    · exact ⟨_, ofNumber?_status .ok⟩
    · exact ⟨_, ofNumber?_status .error⟩
    · exact ⟨_, ofNumber?_status .more⟩

/-- What decodes is told by the length and by three words of the header. -/
theorem exists_decode_iff (data : Bytes) :
    (∃ p, decode data = .ok p) ↔
      24 ≤ data.length ∧ data.wordAt 0 = Remote.program ∧ data.wordAt 12 ≤ 3 ∧
        data.wordAt 20 ≤ 2 := by
  by_cases hlength : 24 ≤ data.length
  · have hread := Header.read_of_le hlength
    rw [← exists_kind_iff, ← exists_status_iff]
    constructor
    · rintro ⟨p, hp⟩
      unfold decode at hp
      rw [hread] at hp
      dsimp only at hp
      split at hp
      · cases hp
      rename_i hprogram
      split at hp
      · rename_i kind status hkind hstatus
        exact ⟨hlength, Decidable.not_not.mp hprogram, ⟨kind, hkind⟩, status, hstatus⟩
      · cases hp
      · cases hp
    · rintro ⟨-, hprogram, ⟨kind, hkind⟩, status, hstatus⟩
      unfold decode
      rw [hread]
      simp only [Header.ofBytes, hprogram, hkind, hstatus, ne_eq, not_true_eq_false, if_false]
      exact ⟨_, rfl⟩
  · refine iff_of_false ?_ fun h => hlength h.1
    rintro ⟨p, hp⟩
    have hdata := congrArg List.length (eq_body_of_decode hp).1
    rw [length_body] at hdata
    omega

/-- A packet that decodes is encoded as the bytes it was decoded from. -/
theorem encode_of_decode {data : Bytes} {p : Packet} (h : decode data = .ok p)
    (hsize : 4 + data.length ≤ packetMaximum) :
    p.encode = .ok (Bytes.ofWord (UInt32.ofNat (4 + data.length)) ++ data) := by
  obtain ⟨rfl, -⟩ := eq_body_of_decode h
  have hlength : 4 + p.body.length = p.size := by
    rw [length_body, size]
    omega
  rw [hlength] at hsize ⊢
  exact encode_of_le hsize

theorem exists_encode_error_iff (p : Packet) :
    (∃ e, p.encode = .error e) ↔ packetMaximum < p.size := by
  by_cases h : packetMaximum < p.size
  · exact iff_of_true ⟨_, encode_of_lt h⟩ h
  · refine iff_of_false ?_ h
    rw [encode_of_le (Nat.le_of_not_lt h)]
    rintro ⟨e, he⟩
    cases he

theorem map_encode (ps : List Packet) (h : ∀ p ∈ ps, p.Travels) :
    ps.map encode = (ps.map frame).map .ok := by
  rw [List.map_map]
  exact List.map_congr_left fun p hp => encode_of_le (h p hp).size_le

theorem map_decode_body (ps : List Packet) (h : ∀ p ∈ ps, p.Travels) :
    (ps.map body).map decode = ps.map .ok := by
  rw [List.map_map]
  exact List.map_congr_left fun p hp => decode_body (h p hp).program_eq

end Packet

namespace Socket

def receiveMany : Nat → EStateM Error Socket (List Bytes)
  | 0 => return []
  | n + 1 => do
    let body ← receive
    return body :: (← receiveMany n)

/-- Each receive takes one frame and leaves the stream at the next. -/
theorem receiveMany_frames (ps : List Packet) (hps : ∀ p ∈ ps, p.Travels) {s : Socket}
    {tail : Bytes} (hs : s.unread = Packet.frames ps ++ tail) :
    receiveMany ps.length s = .ok (ps.map Packet.body) { s with unread := tail } := by
  induction ps generalizing s with
  | nil =>
    have htail : s.unread = tail := hs
    rw [← htail]
    rfl
  | cons p ps ih =>
    obtain ⟨hp, hps⟩ := List.forall_mem_cons.mp hps
    rw [Packet.frames_cons, List.append_assoc] at hs
    have hrest := ih hps (s := { s with unread := Packet.frames ps ++ tail }) rfl
    simp only [List.length_cons, receiveMany, Bind.bind, EStateM.bind, receive_frame hp hs, hrest]
    rfl

/-- A frame is refused for what its length word says, whatever follows. -/
theorem exists_receive_tooLarge_iff {s : Socket} {size : UInt32} {rest : Bytes}
    (hs : s.unread = Bytes.ofWord size ++ rest) :
    (∃ n s', s.receive = .error (.frameTooLarge n) s') ↔ packetMaximum < size.toNat := by
  simp only [Bytes.ofWord, List.cons_append, List.nil_append] at hs
  unfold receive
  rw [hs]
  dsimp only
  rw [Bytes.word_ofWord]
  by_cases h : packetMaximum < size.toNat
  · rw [if_pos h]
    exact iff_of_true ⟨_, _, rfl⟩ h
  · rw [if_neg h]
    refine iff_of_false ?_ h
    rintro ⟨n, s', hreceive⟩
    split at hreceive
    · cases hreceive
    · unfold runOut at hreceive
      split at hreceive <;> cases hreceive

end Socket

/-- Encoded packets one after another are received and decoded as those packets, and what follows
them is left. Encoding fails for the packets that are too large, which are those whose frames are
refused. A body decodes if it is long enough and its program, kind and status are known, and then
it is encoded as it was. -/
theorem stream_and_packets_agree :
    (∀ ps : List Packet, (∀ p ∈ ps, p.program = 0x20008086 ∧ 28 + p.payload.length ≤ 4194304) →
      ∃ wires : List Bytes, ps.map Packet.encode = wires.map .ok ∧
        ∀ (s : Socket) (tail : Bytes), s.unread = wires.flatten ++ tail →
          ∃ bodies, Socket.receiveMany ps.length s = .ok bodies { s with unread := tail } ∧
            bodies.map Packet.decode = ps.map .ok) ∧
    (∀ p : Packet,
      ((∃ e, p.encode = .error e) ↔ 4194304 < 28 + p.payload.length) ∧
      (4194304 < 28 + p.payload.length →
        p.encode = .error (.tooLarge (28 + p.payload.length))) ∧
      ∀ (s : Socket) (size : UInt32) (rest : Bytes), size.toNat = 28 + p.payload.length →
        s.unread = Bytes.ofWord size ++ rest →
          ((∃ e, p.encode = .error e) ↔ ∃ n s', s.receive = .error (.frameTooLarge n) s')) ∧
    (∀ data : Bytes, (∃ p, Packet.decode data = .ok p) ↔
      24 ≤ data.length ∧ data.wordAt 0 = 0x20008086 ∧ data.wordAt 12 ≤ 3 ∧ data.wordAt 20 ≤ 2) ∧
    ∀ (data : Bytes) (p : Packet), Packet.decode data = .ok p →
      4 + data.length ≤ 4194304 →
        p.encode = .ok (Bytes.ofWord (UInt32.ofNat (4 + data.length)) ++ data) := by
  refine ⟨?_, ?_, Packet.exists_decode_iff, fun data p => Packet.encode_of_decode⟩
  · intro ps h
    have hps : ∀ p ∈ ps, p.Travels := fun p hp => ⟨(h p hp).1, (h p hp).2⟩
    refine ⟨ps.map Packet.frame, Packet.map_encode ps hps, ?_⟩
    intro s tail hs
    rw [← List.flatMap_def] at hs
    exact ⟨_, Socket.receiveMany_frames ps hps hs, Packet.map_decode_body ps hps⟩
  · intro p
    refine ⟨p.exists_encode_error_iff, Packet.encode_of_lt, ?_⟩
    intro s size rest hsize hs
    rw [p.exists_encode_error_iff, Socket.exists_receive_tooLarge_iff hs, hsize]
    rfl

def eventAndAnswer : List Packet :=
  [{ Packet.call 107 0 [0, 0, 0, 1] with kind := .message }, Packet.reply 66 1 .ok [0, 0, 0, 0]]

def oversized : Packet := Packet.call 1 1 (List.replicate 4194277 0)

theorem length_oversized : oversized.payload.length = 4194277 := List.length_replicate

/-- A payload of 4194276 bytes is the longest that there is room for. -/
theorem stream_and_packets_agree_boundary :
    (∃ wires : List Bytes, eventAndAnswer.map Packet.encode = wires.map .ok ∧
      ∃ bodies, Socket.receiveMany 2 { unread := wires.flatten ++ [0, 0] } =
          .ok bodies { unread := [0, 0] } ∧
        bodies.map Packet.decode = eventAndAnswer.map .ok) ∧
    oversized.encode = .error (.tooLarge 4194305) ∧
    (∃ n s', Socket.receive { unread := Bytes.ofWord 4194305 ++ oversized.body } =
      .error (.frameTooLarge n) s') ∧
    ∀ p ∈ eventAndAnswer, p.encode = .ok (Bytes.ofWord 32 ++ p.body) := by
  obtain ⟨hstream, hlimit, -, hpacket⟩ := stream_and_packets_agree
  have hlarge : packetMaximum < 28 + oversized.payload.length := by
    rw [length_oversized]
    decide
  refine ⟨?_, ?_, ?_, ?_⟩
  · obtain ⟨wires, hwires, hreceive⟩ := hstream eventAndAnswer (by decide)
    exact ⟨wires, hwires, hreceive { unread := wires.flatten ++ [0, 0] } [0, 0] rfl⟩
  · rw [(hlimit oversized).2.1 hlarge, length_oversized]
  · obtain ⟨hfails, -, hrefused⟩ := hlimit oversized
    let s : Socket := { unread := Bytes.ofWord 4194305 ++ oversized.body }
    have hsize : (4194305 : UInt32).toNat = 28 + oversized.payload.length := by
      rw [length_oversized]
      decide
    have hs : s.unread = Bytes.ofWord 4194305 ++ oversized.body := by rfl
    exact (hrefused s 4194305 oversized.body hsize hs).mp (hfails.mpr hlarge)
  · intro p hp
    have hfields : p.program = program ∧ 4 + p.body.length = 32 := by
      revert p
      decide
    have hsize : 4 + p.body.length ≤ packetMaximum := by
      rw [hfields.2]
      decide
    have hencode := hpacket p.body p (Packet.decode_body hfields.1) hsize
    rwa [hfields.2] at hencode

end Remote

end GuestInventory
