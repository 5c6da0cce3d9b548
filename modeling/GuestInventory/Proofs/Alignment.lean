import GuestInventory.Proofs.Sending

/-!
A stream of whole frames stays one, whatever the frames say and however the calls end. A call that
gets its packet out takes the events at the front and the one frame behind them, which decides by
itself what the call comes to; or it takes them all and finds the stream closed. A call that gets
no packet out takes nothing.
-/
namespace GuestInventory.Remote

def said : EStateM.Result ε σ α → Except ε α
  | .ok a _ => .ok a
  | .error e _ => .error e

def EventFrame (frame : Bytes) : Prop :=
  ∃ e, Packet.decode (frame.drop 4) = .ok e ∧ e.kind = .message

/-- The errors that a single frame can bring upon the call that waits for its reply. -/
inductive Error.FromFrame : Error → Prop
  | packet (cause : Packet.Error) : FromFrame (.packet cause)
  | xdr (cause : Xdr.Error) : FromFrame (.xdr cause)
  | reply (code domain : Int32) (message : String) : FromFrame (.reply code domain message)
  | protocol {e : Error} (harea : e.area? = some .protocol) : FromFrame e

/-- Of the frames, the events that come first are taken together with the frame behind them, and
this frame alone gives the verdict. If there are only events, they are all taken, and the stream
is closed. -/
inductive Decides (verdict : Bytes → Except Error β) :
    List Bytes → List Bytes → Except Error β → Prop
  | frame {events rest : List Bytes} {frame : Bytes} (hevents : ∀ e ∈ events, EventFrame e)
      (hframe : ¬ EventFrame frame) :
      Decides verdict (events ++ frame :: rest) rest (verdict frame)
  | closed {events : List Bytes} (hevents : ∀ e ∈ events, EventFrame e) :
      Decides verdict events [] (.error .closed)

namespace Decides

variable {verdict : Bytes → Except Error β} {frames left : List Bytes} {ending : Except Error β}

theorem next {frame : Bytes} {rest : List Bytes} (hframe : ¬ EventFrame frame) :
    Decides verdict (frame :: rest) rest (verdict frame) := by
  have hsplit : Decides verdict ([] ++ frame :: rest) rest (verdict frame) :=
    .frame (List.forall_mem_nil _) hframe
  exact hsplit

theorem event {e : Bytes} (he : EventFrame e) (h : Decides verdict frames left ending) :
    Decides verdict (e :: frames) left ending := by
  cases h with
  | @frame events _ frame hevents hframe =>
    have hall : ∀ e' ∈ e :: events, EventFrame e' := by
      intro e' he'
      rcases List.mem_cons.mp he' with rfl | he'
      · exact he
      · exact hevents e' he'
    have hsplit : Decides verdict ((e :: events) ++ frame :: left) left (verdict frame) :=
      .frame hall hframe
    exact hsplit
  | closed hevents =>
    apply Decides.closed
    intro e' he'
    rcases List.mem_cons.mp he' with rfl | he'
    · exact he
    · exact hevents e' he'

/-- What is made of the verdict makes nothing of a stream that is closed. -/
theorem bind (h : Decides verdict frames left ending) (f : β → Except Error γ) :
    Decides (fun frame => verdict frame >>= f) frames left (ending >>= f) := by
  cases h with
  | @frame events _ frame hevents hframe =>
    have hbound : Decides (fun frame => verdict frame >>= f) (events ++ frame :: left) left
        ((fun frame => verdict frame >>= f) frame) := .frame hevents hframe
    exact hbound
  | closed hevents => exact .closed hevents

theorem suffix (h : Decides verdict frames left ending) : left <:+ frames := by
  cases h with
  | @frame events _ frame => exact ⟨events ++ [frame], by simp⟩
  | closed => exact List.nil_suffix

end Decides

/-- The departure of the other end is still to be told only if it has left. This is so of every
socket that is reached, and stays so. -/
def Socket.Sound (s : Socket) : Prop := s.resetDue = true → s.peerGone = true

theorem Socket.sound_unread (unread : Bytes) : Sound { unread } := by
  intro hdue
  cases hdue

namespace Connection

variable {procedure : Procedure} {serial : UInt32} {c : Connection} {frames : List Bytes}

def verdict (procedure : Procedure) (serial : UInt32) (frame : Bytes) : Except Error Bytes :=
  match Packet.decode (frame.drop 4) with
  | .error e => .error (.packet e)
  | .ok p => outcome procedure serial p

/-- What a packet is taken for is never a failure of the stream. -/
theorem fromFrame_of_outcome {p : Packet} {e : Error}
    (h : outcome procedure serial p = .error e) : e.FromFrame := by
  unfold outcome at h
  split at h
  · split at h
    · cases h
      exact .protocol rfl
    · split at h
      · cases h
      · cases h
        unfold replyError
        split
        · exact .reply _ _ _
        · exact .protocol rfl
      · cases h
        exact .protocol rfl
  · cases h
    exact .protocol rfl

theorem fromFrame_of_verdict {frame : Bytes} {e : Error}
    (h : verdict procedure serial frame = .error e) : e.FromFrame := by
  unfold verdict at h
  split at h
  · cases h
    exact .packet _
  · exact fromFrame_of_outcome h

/-- An event is passed over. -/
theorem awaitReply_eventFrame {frame rest : Bytes} (hframe : Framed frame)
    (hevent : EventFrame frame) (hc : c.socket.unread = frame ++ rest) :
    ∃ e, awaitReply procedure serial c = awaitReply procedure serial
      (note e { c with socket := { c.socket with unread := rest } }) := by
  obtain ⟨p, hdecode, hkind⟩ := hevent
  refine ⟨.skippedMessage p.procedure, ?_⟩
  rw [awaitReply_received (hframe.received hc), hdecode]
  exact if_pos hkind

/-- Any other frame decides. -/
theorem awaitReply_decided {frame rest : Bytes} (hframe : Framed frame)
    (hevent : ¬ EventFrame frame) (hc : c.socket.unread = frame ++ rest) :
    said (awaitReply procedure serial c) = verdict procedure serial frame ∧
      (stateAfter (awaitReply procedure serial c)).socket =
        { c.socket with unread := rest } := by
  rw [awaitReply_received (hframe.received hc), verdict]
  cases hdecode : Packet.decode (frame.drop 4) with
  | error e => exact ⟨rfl, rfl⟩
  | ok p =>
    have hkind : p.kind ≠ .message := fun hkind => hevent ⟨p, hdecode, hkind⟩
    dsimp only
    rw [if_neg hkind]
    cases outcome procedure serial p <;> exact ⟨rfl, rfl⟩

/-- Waiting for a reply on a stream of frames, by induction on them. -/
theorem awaitReply_frames (procedure : Procedure) (serial : UInt32)
    (hframes : ∀ f ∈ frames, Framed f) (hreset : c.socket.resetDue = false)
    (hc : c.socket.unread = frames.flatten) :
    ∃ left, Decides (verdict procedure serial) frames left (said (awaitReply procedure serial c)) ∧
      (stateAfter (awaitReply procedure serial c)).socket =
        { c.socket with unread := left.flatten } := by
  induction frames generalizing c with
  | nil =>
    have hend : c.socket.receive = .error .closed { c.socket with unread := [] } := by
      rw [Socket.receive, hc]
      simp [Socket.runOut, hreset]
    rw [awaitReply_refused hend]
    exact ⟨[], .closed (List.forall_mem_nil _), rfl⟩
  | cons frame rest ih =>
    have hframe := hframes frame List.mem_cons_self
    by_cases hevent : EventFrame frame
    · obtain ⟨e, hpassed⟩ := awaitReply_eventFrame hframe hevent hc
      obtain ⟨left, hleft, hsocket⟩ :=
        ih (c := note e { c with socket := { c.socket with unread := rest.flatten } })
          (fun f hf => hframes f (List.mem_cons_of_mem frame hf)) hreset rfl
      rw [hpassed]
      exact ⟨left, hleft.event hevent, hsocket⟩
    · obtain ⟨hsaid, hsocket⟩ := awaitReply_decided hframe hevent hc
      rw [hsaid]
      exact ⟨rest, .next hevent, hsocket⟩

/-- Waiting for a reply, given up if it takes more receives than it is allowed. -/
def awaitWithin : Nat → Procedure → UInt32 → Connection →
    Option (EStateM.Result Error Connection Bytes)
  | 0, _, _, _ => none
  | allowed + 1, procedure, serial, c =>
    match c.socket.receive with
    | .error e socket => some (.error e { c with socket })
    | .ok body socket =>
      match Packet.decode body with
      | .error e => some (.error (.packet e) { c with socket })
      | .ok p =>
        if p.kind = .message then
          awaitWithin allowed procedure serial
            (note (.skippedMessage p.procedure) { c with socket })
        else
          match outcome procedure serial p with
          | .ok data => some (.ok data { c with socket })
          | .error e => some (.error e { c with socket })

/-- Every packet that is passed over takes the 28 bytes of its header off the stream. -/
theorem awaitWithin_of_lt {allowed : Nat} (h : c.socket.unread.length / 28 < allowed) :
    awaitWithin allowed procedure serial c = some (awaitReply procedure serial c) := by
  induction allowed generalizing c with
  | zero => omega
  | succ allowed ih =>
    unfold awaitWithin
    cases hreceive : c.socket.receive with
    | error e socket => rw [awaitReply_refused hreceive]
    | ok body socket =>
      rw [awaitReply_received hreceive]
      dsimp only
      cases hdecode : Packet.decode body with
      | error e => rfl
      | ok p =>
        dsimp only
        by_cases hkind : p.kind = .message
        · rw [if_pos hkind, if_pos hkind]
          -- only a whole packet decodes, so this receive is paid for with 28 bytes at least
          obtain ⟨-, hunread, -⟩ := Socket.frame_of_receive hreceive hdecode
          have hlength := congrArg List.length hunread
          rw [List.length_append, Packet.length_frame, Packet.size] at hlength
          apply ih
          change socket.unread.length / 28 < allowed
          omega
        · rw [if_neg hkind, if_neg hkind]
          cases outcome procedure serial p <;> rfl

end Connection

namespace Turn

variable {t : Turn α} {procedure : Procedure} {payload : Bytes} {frames : List Bytes}

def verdict (t : Turn α) (procedure : Procedure) (frame : Bytes) : Except Error (Answer α) :=
  Connection.verdict procedure t.before.serial frame >>= t.step.interpret

/-- The answer of a turn is what its step makes of what the call says. -/
theorem answer_of_calls (h : t.step.Calls procedure payload) :
    t.answer = said (Connection.call procedure payload t.before) >>= t.step.interpret := by
  obtain ⟨step, c⟩ := t
  cases h with
  | call =>
    simp only [answer, result, Step.perform, Bind.bind, EStateM.bind]
    cases Connection.call procedure payload c <;> rfl
  | request procedure reply hargs =>
    simp only [answer, result, Step.perform, Bind.bind, EStateM.bind,
      Connection.request_encoded reply hargs]
    cases Connection.call procedure payload c with
    | error e c' => rfl
    | ok data c' =>
      simp only [said, Except.bind, Step.interpret]
      cases reply data <;> rfl

theorem fromFrame_of_verdict {frame : Bytes} {e : Error}
    (h : t.verdict procedure frame = .error e) : e.FromFrame := by
  unfold verdict at h
  cases hverdict : Connection.verdict procedure t.before.serial frame with
  | error cause =>
    rw [hverdict] at h
    cases h
    exact Connection.fromFrame_of_verdict hverdict
  | ok data =>
    rw [hverdict] at h
    change t.step.interpret data = .error e at h
    unfold Step.interpret at h
    split at h
    · cases h
    · split at h
      · cases h
      · cases h
        exact .xdr _
    · cases h
    · cases h

inductive Consumes (t : Turn α) : List Bytes → List Bytes → Prop
  | sent {procedure : Procedure} {payload frame : Bytes} {frames left : List Bytes}
      (hcalls : t.step.Calls procedure payload) (hsent : t.frame? = some frame)
      (hdecides : Decides (t.verdict procedure) frames left t.answer) : Consumes t frames left
  | unsent {frames : List Bytes} (hunsent : t.frame? = none) : Consumes t frames frames

theorem Consumes.suffix {left : List Bytes} (h : t.Consumes frames left) : left <:+ frames := by
  cases h with
  | sent hcalls hsent hdecides => exact hdecides.suffix
  | unsent hunsent => exact List.suffix_refl _

theorem sound_of_frame? (hsound : t.before.socket.Sound) (h : t.frame? = none) :
    t.after.socket.Sound := by
  rcases socket_of_frame? h with hsocket | hsocket | hsocket
  · rw [hsocket]
    exact hsound
  · rw [hsocket]
    exact hsound
  · rw [hsocket]
    unfold Socket.losePeer
    split
    · exact hsound
    · intro _
      rfl

/-- A turn that starts at a frame ends at one. -/
theorem consumes (hsound : t.before.socket.Sound) (hframes : ∀ f ∈ frames, Framed f)
    (hunread : t.before.socket.unread = frames.flatten) :
    ∃ left, t.Consumes frames left ∧ t.after.socket.Sound ∧
      t.after.socket.unread = left.flatten := by
  cases hframe : t.frame? with
  | none =>
    refine ⟨frames, .unsent hframe, sound_of_frame? hsound hframe, ?_⟩
    rw [(still_of_frame? hframe).unread_eq, hunread]
  | some frame =>
    obtain ⟨procedure, payload, hcalls, hposts, -⟩ := posts_of_frame? hframe
    -- what could be sent was sent to an end that is there, so the stream can only end quietly
    have hreset : t.before.socket.resetDue = false := by
      cases hdue : t.before.socket.resetDue with
      | false => rfl
      | true =>
        have hgone := hsound hdue
        rw [hposts.2.2] at hgone
        cases hgone
    let sent := (t.before.begin procedure).sending (t.before.outgoing procedure payload)
    obtain ⟨left, hdecides, hsocket⟩ :=
      Connection.awaitReply_frames (c := sent) procedure t.before.serial hframes hreset hunread
    rw [← Connection.call_sends hposts.1 hposts.2] at hdecides hsocket
    refine ⟨left, .sent hcalls hframe ?_, ?_, ?_⟩
    · rw [answer_of_calls hcalls]
      exact hdecides.bind _
    · rw [after_of_calls hcalls, hsocket]
      exact hsound
    · rw [after_of_calls hcalls, hsocket]

end Turn

/-- The turns of a run start at a frame each, and each goes on where the one before it stopped. -/
inductive Aligned : List (Turn α) → List Bytes → List Bytes → Prop
  | done (frames : List Bytes) : Aligned [] frames frames
  | turn {t : Turn α} {rest : List (Turn α)} {frames between left : List Bytes}
      (hbefore : t.before.socket.unread = frames.flatten) (hturn : t.Consumes frames between)
      (hafter : t.after.socket.unread = between.flatten) (hrest : Aligned rest between left) :
      Aligned (t :: rest) frames left

theorem Aligned.suffix {ts : List (Turn α)} {frames left : List Bytes}
    (h : Aligned ts frames left) : left <:+ frames := by
  induction h with
  | done => exact List.suffix_refl _
  | turn hbefore hturn hafter hrest ih => exact ih.trans hturn.suffix

/-- By induction on the steps, over what the first of them leaves. -/
theorem exists_aligned {c : Connection} {frames : List Bytes} (hsound : c.socket.Sound)
    (hframes : ∀ f ∈ frames, Framed f) (hc : c.socket.unread = frames.flatten)
    (steps : List (Step α)) :
    ∃ left, Aligned (turns c steps) frames left ∧ (atEnd c steps).socket.Sound ∧
      (atEnd c steps).socket.unread = left.flatten := by
  induction steps generalizing c frames with
  | nil => exact ⟨frames, .done frames, hsound, hc⟩
  | cons step rest ih =>
    obtain ⟨between, hturn, hsound', hafter⟩ :=
      Turn.consumes (t := ⟨step, c⟩) hsound hframes hc
    obtain ⟨left, hrest, hend⟩ :=
      ih hsound' (fun f hf => hframes f (hturn.suffix.subset hf)) hafter
    exact ⟨left, .turn hc hturn hafter hrest, hend⟩

/-- On a stream of whole frames, every turn of every run starts and ends between two frames,
failed or not: a call that is sent takes the events at the front and the next frame, which settles
what it comes to, or all frames if they are events; nothing else takes any. On any stream, waiting
for a reply takes at most one receive for every 28 unread bytes, and one more. -/
theorem frames_stay_whole :
    (∀ (c : Connection) (steps : List (Step α)) (frames : List Bytes),
      c.socket.Sound → (∀ f ∈ frames, Framed f) → c.socket.unread = frames.flatten →
        ∃ left, Aligned (turns c steps) frames left ∧ left <:+ frames ∧
          (atEnd c steps).socket.Sound ∧ (atEnd c steps).socket.unread = left.flatten) ∧
    (∀ (t : Turn α) (procedure : Procedure) (frame : Bytes) (e : Error),
      t.verdict procedure frame = .error e → e.FromFrame) ∧
    ∀ (procedure : Procedure) (serial : UInt32) (c : Connection),
      Connection.awaitWithin (c.socket.unread.length / 28 + 1) procedure serial c =
        some (Connection.awaitReply procedure serial c) := by
  refine ⟨?_, ?_, ?_⟩
  · intro c steps frames hsound hframes hc
    obtain ⟨left, haligned, hend⟩ := exists_aligned hsound hframes hc steps
    exact ⟨left, haligned, haligned.suffix, hend⟩
  · intro t procedure frame e h
    exact Turn.fromFrame_of_verdict h
  · intro procedure serial c
    exact Connection.awaitWithin_of_lt (Nat.lt_succ_self _)

def eventful : List Bytes :=
  let event : Packet := { Packet.reply 318 0 .ok [0, 0, 0, 7] with kind := .message }
  [event.frame, [0, 0, 0, 4], (Packet.reply Procedure.authPolkit.number 2 .ok [9]).frame]

/-- The first call fails on the frame without a body and leaves the reply to the second call where
it is. -/
theorem frames_stay_whole_eventful :
    (∃ left,
      Aligned (turns { socket := { unread := eventful.flatten } }
        ([.call .authList [], .call .authPolkit []] : List (Step Unit))) eventful left ∧
      left <:+ eventful) ∧
    ∃ c, Connection.awaitReply .authList 1 { socket := { unread := eventful.flatten } } =
        .error (.packet .tooShort) c ∧
      c.socket.unread = (Packet.reply Procedure.authPolkit.number 2 .ok [9]).frame := by
  obtain ⟨haligned, -, hwithin⟩ := frames_stay_whole (α := Unit)
  have hframes : ∀ f ∈ eventful, Framed f := by
    intro f hf
    simp only [eventful, List.mem_cons, List.not_mem_nil, or_false] at hf
    rcases hf with rfl | rfl | rfl
    · exact ⟨_, _, by decide, rfl, rfl⟩
    · exact ⟨4, [], by decide, rfl, rfl⟩
    · exact ⟨_, _, by decide, rfl, rfl⟩
  obtain ⟨left, hleft, hsuffix, -⟩ := haligned { socket := { unread := eventful.flatten } }
    [.call .authList [], .call .authPolkit []] eventful (Socket.sound_unread _) hframes rfl
  have hawait := hwithin .authList 1 { socket := { unread := eventful.flatten } }
  refine ⟨⟨left, hleft, hsuffix⟩, ?_⟩
  rw [← Option.some.inj hawait]
  exact ⟨_, rfl, rfl⟩

end GuestInventory.Remote
