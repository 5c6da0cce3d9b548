import GuestInventory.Proofs.Sending
import GuestInventory.Proofs.Gate
import GuestInventory.Proofs.Replies

/-!
What goes out in an opening. Nothing but the answers at the gate leads to the frame that opens a
session, and where the caller is kept out the opening ends with the failure, on the connection as
the last question left it.
-/
namespace GuestInventory.Remote

open Xdr (Datum)

def Procedure.CalledBy (procedure : Procedure) (frame : Bytes) : Prop :=
  ∃ p, Packet.decode (frame.drop 4) = .ok p ∧ p.procedure = procedure.number

theorem Procedure.calledBy_frame {procedure called : Procedure} {n : UInt32} {payload : Bytes}
    (h : procedure.CalledBy (Packet.call called.number n payload).frame) : procedure = called := by
  obtain ⟨p, hp, hprocedure⟩ := h
  have hcall : Packet.decode ((Packet.call called.number n payload).frame.drop 4) = _ :=
    Packet.decode_body rfl
  rw [hcall] at hp
  cases hp
  exact Procedure.number_injective hprocedure.symm

namespace Connection

variable {procedure : Procedure} {payload : Bytes} {args : Datum} {reply : Xdr.Reader α}
    {c c' : Connection}

theorem request_sends (reply : Xdr.Reader α) (hargs : args.encode = .ok payload)
    (c : Connection) :
    (stateAfter (request procedure args reply c)).socket.sent =
      c.socket.sent ++ (c.outgo procedure payload).toArray := by
  rw [stateAfter_request reply hargs, call_sent]

/-- A request leaves the way out as open as it was. -/
theorem canSend_request {r : EStateM.Result Error Connection α}
    (hargs : args.encode = .ok payload) (h : request procedure args reply c = r)
    (hc : c.socket.CanSend) :
    (stateAfter r).socket.CanSend := by
  rw [← h, stateAfter_request reply hargs]
  refine (call_after procedure payload c).2.canSend ?_
  rw [posted]
  split
  · exact hc
  · exact hc

/-- A request that succeeds has sent its packet and used its serial. -/
theorem request_told {a : α} (hargs : args.encode = .ok payload)
    (h : request procedure args reply c = .ok a c') :
    c'.serial = c.serial + 1 ∧
      c'.socket.sent = c.socket.sent.push (c.outgoing procedure payload).frame := by
  obtain ⟨data, rest, hcall, -⟩ := request_ok hargs h
  have hserial := (call_after procedure payload c).1
  rw [hcall] at hserial
  obtain ⟨-, -, -, -, -, -, -, hsent⟩ := call_ok hcall
  exact ⟨hserial, hsent⟩

/-- The stream brings, behind some events, a reply whose payload begins with `data`, and then goes
on with `rest`. -/
def Brings (procedure : Procedure) (serial : UInt32) (data rest stream : Bytes) : Prop :=
  ∃ (events : List Packet) (p : Packet) (more : Bytes), (∀ e ∈ events, e.IsEvent) ∧
    p.RepliesTo procedure serial ∧ p.payload = data ++ more ∧
    stream = Packet.frames events ++ (p.frame ++ rest)

theorem request_brought {data rest : Bytes} {a : α} (hargs : args.encode = .ok [])
    (hsend : c.socket.CanSend) (hc : Brings procedure c.serial data rest c.socket.unread)
    (hread : Xdr.Reads reply data a) :
    ∃ c', request procedure args reply c = .ok a c' ∧ c'.line =
      ⟨{ (c.sending (c.outgoing procedure [])).socket with unread := rest }, c.serial + 1⟩ := by
  obtain ⟨events, p, more, hevents, hp, hpayload, hunread⟩ := hc
  have hanswer : reply p.payload = .ok a more := by
    rw [hpayload]
    exact hread more
  exact request_replied hargs (by decide : 28 ≤ packetMaximum) hsend hevents hp hunread hanswer

end Connection

namespace Session

open Connection

variable {c c' : Connection}

/-- On the way in, nothing goes out but the questions. -/
theorem LetIn.sent_eq {before : List Bytes} (h : LetIn c before c') :
    c'.socket.sent = c.socket.sent ++ before.toArray := by
  cases h with
  | free hlist hl =>
    rw [(request_told encode_void hlist).2]
    simp [asking, outgoing]
  | polkit hlist hl hpolkit houtcome ho =>
    obtain ⟨hserial, hsent⟩ := request_told encode_void hlist
    rw [(request_told encode_void houtcome).2, hsent, Array.push_eq_append, Array.push_eq_append,
      Array.append_assoc, outgoing, outgoing, hserial]
    rfl

/-- The questions before an opening are no openings. -/
theorem LetIn.not_calledBy {before : List Bytes} (h : LetIn c before c') :
    ∀ frame ∈ before, ¬ Procedure.connectOpen.CalledBy frame := by
  have hquestion {procedure : Procedure} {n : UInt32} (hprocedure : .connectOpen ≠ procedure) :
      ¬ Procedure.connectOpen.CalledBy (asking procedure n) :=
    fun hcalled => hprocedure (Procedure.calledBy_frame hcalled)
  cases h with
  | free => exact List.forall_mem_singleton.mpr (hquestion (by decide))
  | polkit =>
    exact List.forall_mem_cons.mpr
      ⟨hquestion (by decide), List.forall_mem_singleton.mpr (hquestion (by decide))⟩

theorem LetIn.canSend {before : List Bytes} (h : LetIn c before c')
    (hc : c.socket.CanSend) : c'.socket.CanSend := by
  cases h with
  | free hlist => exact canSend_request encode_void hlist hc
  | polkit hlist hl hpolkit houtcome =>
    exact canSend_request encode_void houtcome (canSend_request encode_void hlist hc)

/-- No opening has been called for between `c` and `c'`. -/
def OpenFree (c c' : Connection) : Prop :=
  ∃ frames : List Bytes, c'.socket.sent = c.socket.sent ++ frames.toArray ∧
    ∀ frame ∈ frames, ¬ Procedure.connectOpen.CalledBy frame

theorem OpenFree.trans {c'' : Connection} (h : OpenFree c c') (h' : OpenFree c' c'') :
    OpenFree c c'' := by
  obtain ⟨first, hfirst, hnot⟩ := h
  obtain ⟨second, hsecond, hnot'⟩ := h'
  refine ⟨first ++ second, ?_, List.forall_mem_append.mpr ⟨hnot, hnot'⟩⟩
  rw [hsecond, hfirst, Array.append_assoc, ← List.append_toArray]

/-- A question of another procedure calls for no opening, however it ends. -/
theorem openFree_request {procedure : Procedure} {reply : Xdr.Reader α}
    {r : EStateM.Result Error Connection α} (hprocedure : .connectOpen ≠ procedure)
    (h : request procedure .void reply c = r) : OpenFree c (stateAfter r) := by
  refine ⟨(c.outgo procedure []).toList, ?_, ?_⟩
  · rw [← h, request_sends reply encode_void, Option.toArray_toList]
  · intro frame hframe hcalled
    obtain ⟨-, rfl⟩ := outgo_eq_some_iff.mp (Option.mem_toList.mp hframe)
    exact hprocedure (Procedure.calledBy_frame hcalled)

/-- Whoever is kept out has called for no opening. -/
theorem KeptOut.openFree {e : Error} (h : KeptOut c e c') : OpenFree c c' := by
  cases h with
  | unlisted hlist => exact openFree_request (by decide) hlist
  | noScheme hlist hl hpolkit => exact openFree_request (by decide) hlist
  | unanswered hlist hl hpolkit houtcome =>
    have hfirst := openFree_request (by decide) hlist
    exact hfirst.trans (openFree_request (by decide) houtcome)
  | incomplete hlist hl hpolkit houtcome ho =>
    have hfirst := openFree_request (by decide) hlist
    exact hfirst.trans (openFree_request (by decide) houtcome)

/-- A failure to get in is the failure of the opening. -/
theorem start_of_keptOut (uri : String) {e : Error} (h : KeptOut c e c') :
    start uri c = .error e c' := by
  simp only [start, Bind.bind, EStateM.bind, h.authenticate_eq]

/-- Behind the gate, the call that opens the session is the only one that is left. -/
theorem start_of_letIn (uri : String) {before : List Bytes} (h : LetIn c before c') :
    (stateAfter (start uri c)).socket.sent = c.socket.sent ++
      (before ++ (c'.outgo .connectOpen (opening uri).datum.wire).toList).toArray := by
  have hstart : (stateAfter (start uri c)).socket = (stateAfter
      (request .connectOpen (opening uri).datum (pure () : Xdr.Reader Unit) c')).socket := by
    simp only [start, Bind.bind, EStateM.bind, h.authenticate_eq, blaming, opening]
    cases request .connectOpen _ (pure () : Xdr.Reader Unit) c' <;> rfl
  rw [hstart, request_sends _ (opening uri).plain.encode, h.sent_eq, Array.append_assoc,
    ← List.append_toArray, Option.toArray_toList]

/-- The frames of an opening: its own is among them only if the caller is let in, and then they
are those of the questions and its own. -/
theorem exists_frames (uri : String) (c : Connection) :
    ∃ frames : List Bytes,
      (stateAfter (start uri c)).socket.sent = c.socket.sent ++ frames.toArray ∧
      (∀ frame ∈ frames, Procedure.connectOpen.CalledBy frame → ∃ before c', LetIn c before c') ∧
      ∀ before c', LetIn c before c' →
        frames = before ++ (c'.outgo .connectOpen (opening uri).datum.wire).toList ∧
        ∀ frame, c'.outgo .connectOpen (opening uri).datum.wire = some frame →
          Procedure.connectOpen.CalledWith c'.serial (opening uri).datum.wire frame := by
  rcases letIn_or_keptOut c with ⟨before, c', hin⟩ | ⟨e, c', hout⟩
  · have hsent := start_of_letIn uri hin
    refine ⟨_, hsent, fun _ _ _ => ⟨before, c', hin⟩, ?_⟩
    intro before' d hin'
    have hsame := hsent.symm.trans (start_of_letIn uri hin')
    exact ⟨List.toArray_inj ((Array.append_right_inj _).mp hsame), fun _ => calledWith_of_outgo⟩
  · obtain ⟨frames, hsent, hnot⟩ := hout.openFree
    rw [start_of_keptOut uri hout]
    refine ⟨frames, hsent, fun frame hframe hcalled => absurd hcalled (hnot frame hframe), ?_⟩
    intro before d hin
    have hopen := hin.authenticate_eq
    rw [hout.authenticate_eq] at hopen
    cases hopen

end Session

def schemeWords (tags : List Int32) : Bytes :=
  Bytes.ofWord (UInt32.ofNat tags.length) ++ tags.flatMap fun tag => Bytes.ofWord tag.toUInt32

theorem SchemeList.reads_words {tags : List Int32} (h : tags.length ≤ schemeMaximum) :
    Xdr.Reads SchemeList.read (schemeWords tags) ⟨tags.map AuthScheme.ofTag⟩ := by
  have hscheme (tag : Int32) :
      Xdr.Reads AuthScheme.read (Bytes.ofWord tag.toUInt32) (AuthScheme.ofTag tag) :=
    (Xdr.Reads.int32 tag).bind_pure rfl
  have hlength : tags.length < 4294967296 := by
    unfold schemeMaximum at h
    omega
  have hlist := Xdr.Reads.boundedArray AuthScheme.read _ AuthScheme.ofTag tags schemeMaximum h
    hlength fun tag _ => hscheme tag
  exact hlist.bind_pure rfl

namespace Session

open Connection

variable {c : Connection} {tags : List Int32} {rest : Bytes}

end Session

end GuestInventory.Remote
