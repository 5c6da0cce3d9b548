import GuestInventory.Proofs.Pairing

/-!
Events do not disturb. One stream has the frames of some events put in between the frames of
another. Two connections over them are apart by what they have read of these events and by the
records of it, and whatever is done with both comes to the same and leaves them so apart.
-/
namespace GuestInventory.Remote

/-- Bytes that are read as one frame, whatever its body says. A length word that does not even
count itself has no body behind it. -/
def Framed (frame : Bytes) : Prop :=
  ∃ (size : UInt32) (body : Bytes), size.toNat ≤ 4194304 ∧ body.length = size.toNat - 4 ∧
    frame = Bytes.ofWord size ++ body

/-- The second stream is the first with `events` put in before some of its frames or before its
tail, which may be anything. -/
inductive Interjected : List Packet → Bytes → Bytes → Prop
  | tail (rest : Bytes) : Interjected [] rest rest
  | frame {events : List Packet} {frame plain padded : Bytes} (hframe : Framed frame)
      (h : Interjected events plain padded) :
      Interjected events (frame ++ plain) (frame ++ padded)
  | event {event : Packet} {events : List Packet} {plain padded : Bytes} (hevent : event.IsEvent)
      (h : Interjected events plain padded) :
      Interjected (event :: events) plain (event.frame ++ padded)

inductive Noted : List Packet → Log.Journal → Log.Journal → Prop
  | same (journal : Log.Journal) : Noted [] journal journal
  | both {events : List Packet} {plain padded : Log.Journal} (entry : Log.Entry)
      (h : Noted events plain padded) : Noted events (plain.push entry) (padded.push entry)
  | skipped {events : List Packet} {plain padded : Log.Journal} (event : Packet)
      (h : Noted events plain padded) :
      Noted (events ++ [event]) plain (padded.push (.event (.skippedMessage event.procedure)))

theorem Noted.append {events : List Packet} {plain padded : Log.Journal}
    (h : Noted events plain padded) (entries : List Log.Entry) :
    Noted events (plain ++ entries.toArray) (padded ++ entries.toArray) := by
  induction entries generalizing plain padded with
  | nil => simpa using h
  | cons entry rest ih => simpa using ih (h.both entry)

/-- A frame is received as what follows its length word. -/
theorem Framed.received {frame rest : Bytes} {s : Socket} (h : Framed frame)
    (hs : s.unread = frame ++ rest) :
    s.receive = .ok (frame.drop 4) { s with unread := rest } := by
  obtain ⟨size, body, hsize, hbody, rfl⟩ := h
  have hmaximum : ¬ packetMaximum < size.toNat := Nat.not_lt.mpr hsize
  simp only [Bytes.ofWord, List.cons_append, List.nil_append] at hs
  unfold Socket.receive
  rw [hs]
  dsimp only
  rw [Bytes.word_ofWord, if_neg hmaximum, ← hbody]
  simp [Bytes.ofWord]

inductive SameEnd (R : σ → σ → Prop) :
    EStateM.Result ε σ α → EStateM.Result ε σ α → Prop
  | ok {s s' : σ} (a : α) (h : R s s') : SameEnd R (.ok a s) (.ok a s')
  | error {s s' : σ} (e : ε) (h : R s s') : SameEnd R (.error e s) (.error e s')

theorem SameEnd.ok_or_error {R : σ → σ → Prop} {r r' : EStateM.Result ε σ α} (h : SameEnd R r r') :
    (∃ a s s', r = .ok a s ∧ r' = .ok a s' ∧ R s s') ∨
      ∃ e s s', r = .error e s ∧ r' = .error e s' ∧ R s s' := by
  cases h with
  | ok a h => exact Or.inl ⟨a, _, _, rfl, rfl, h⟩
  | error e h => exact Or.inr ⟨e, _, _, rfl, rfl, h⟩

def Keeps (R : σ → σ → Prop) (x : EStateM ε σ α) : Prop :=
  ∀ s s', R s s' → SameEnd R (x s) (x s')

namespace Keeps

variable {R : σ → σ → Prop} {x : EStateM ε σ α}

theorem pure (a : α) : Keeps R (Pure.pure a : EStateM ε σ α) := fun _ _ h => .ok a h

theorem throw (e : ε) : Keeps R (MonadExcept.throw e : EStateM ε σ α) := fun _ _ h => .error e h

theorem modify {f : σ → σ} (hf : ∀ s s', R s s' → R (f s) (f s')) :
    Keeps R (modify f : EStateM ε σ PUnit) := by
  intro s s' h
  exact SameEnd.ok PUnit.unit (hf s s' h)

theorem bind {f : α → EStateM ε σ β} (hx : Keeps R x) (hf : ∀ a, Keeps R (f a)) :
    Keeps R (x >>= f) := by
  intro s s' h
  simp only [Bind.bind, EStateM.bind]
  rcases (hx s s' h).ok_or_error with ⟨a, t, t', ht, ht', h⟩ | ⟨e, t, t', ht, ht', h⟩
  · rw [ht, ht']
    exact hf a t t' h
  · rw [ht, ht']
    exact .error e h

/-- A computation at the end changes nothing. -/
theorem map (g : α → β) (hx : Keeps R x) : Keeps R (do return g (← x)) :=
  hx.bind fun a => pure (g a)

/-- Nor does giving failures another name. -/
theorem renamed {y : EStateM ε' σ α} (hx : Keeps R x) (rename : ε → ε')
    (hok : ∀ s a t, x s = .ok a t → y s = .ok a t)
    (herror : ∀ s e t, x s = .error e t → y s = .error (rename e) t) : Keeps R y := by
  intro s s' h
  rcases (hx s s' h).ok_or_error with ⟨a, t, t', ht, ht', h⟩ | ⟨e, t, t', ht, ht', h⟩
  · rw [hok s a t ht, hok s' a t' ht']
    exact .ok a h
  · rw [herror s e t ht, herror s' e t' ht']
    exact .error (rename e) h

end Keeps

namespace Connection

/-- The second connection has read `seen` besides what the first has read, and has `coming` before
it besides what the first has before it. -/
structure Apart (seen coming : List Packet) (c c' : Connection) : Prop where
  socket_eq : c'.socket = { c.socket with unread := c'.socket.unread }
  serial_eq : c'.serial = c.serial
  stream : Interjected coming c.socket.unread c'.socket.unread
  journal : Noted seen c.journal c'.journal

/-- The connections differ in events alone, of which the second has seen the first few. -/
def Alike (events : List Packet) (c c' : Connection) : Prop :=
  ∃ seen coming, events = seen ++ coming ∧ Apart seen coming c c'

variable {procedure : Procedure} {serial : UInt32} {seen coming events : List Packet}
    {c c' : Connection}

theorem Apart.alike (h : Apart seen coming c c') : Alike (seen ++ coming) c c' :=
  ⟨seen, coming, rfl, h⟩

/-- Two connections over one socket. -/
theorem Apart.over (socket : Socket) (hserial : c'.serial = c.serial)
    (hjournal : Noted seen c.journal c'.journal) :
    Apart seen [] { c with socket } { c' with socket } :=
  ⟨rfl, hserial, .tail _, hjournal⟩

/-- Both read on. -/
theorem Apart.read {coming' : List Packet} {plain padded : Bytes} (h : Apart seen coming c c')
    (hstream : Interjected coming' plain padded) :
    Apart seen coming' { c with socket := { c.socket with unread := plain } }
      { c' with socket := { c'.socket with unread := padded } } := by
  refine ⟨?_, h.serial_eq, hstream, h.journal⟩
  dsimp only
  rw [h.socket_eq]

theorem Apart.note (h : Apart seen coming c c') (e : Log.Event) :
    Apart seen coming (note e c) (note e c') :=
  ⟨h.socket_eq, h.serial_eq, h.stream, h.journal.both (.event e)⟩

/-- The second passes over an event that the first does not have. -/
theorem Apart.pass {e : Packet} {plain padded : Bytes} (h : Apart seen coming c c')
    (hplain : c.socket.unread = plain) (hstream : Interjected events plain padded) :
    Apart (seen ++ [e]) events c (c'.pass [e] padded) := by
  refine ⟨?_, h.serial_eq, hplain ▸ hstream, ?_⟩
  · simp only [Connection.pass]
    rw [h.socket_eq]
  · have hpassed := h.journal.skipped e
    simpa [Connection.pass] using hpassed

/-- Over one socket, a call settles in one way. -/
theorem settle_over (hsocket : c'.socket = c.socket) (hserial : c'.serial = c.serial)
    (hjournal : Noted seen c.journal c'.journal) :
    SameEnd (Alike seen) (settle procedure serial c) (settle procedure serial c') := by
  have hover (socket : Socket) : Alike seen { c with socket } { c' with socket } := by
    have h := (Apart.over socket hserial hjournal).alike
    rwa [List.append_nil] at h
  unfold settle
  rw [hsocket]
  cases c.socket.receive with
  | error e socket => exact .error e (hover socket)
  | ok body socket =>
    dsimp only
    cases Packet.decode body with
    | error e => exact .error _ (hover socket)
    | ok p =>
      dsimp only
      cases outcome procedure serial p with
      | error e => exact .error e (hover socket)
      | ok payload => exact .ok payload (hover socket)

/-- Over one socket, both pass over the same events first. -/
theorem awaitReply_over (hsocket : c'.socket = c.socket) (hserial : c'.serial = c.serial)
    (hjournal : Noted seen c.journal c'.journal) :
    SameEnd (Alike seen) (awaitReply procedure serial c) (awaitReply procedure serial c') := by
  obtain ⟨events, rest, hevents, hunread, hstop⟩ := c.socket.exists_events
  have hunread' : c'.socket.unread = Packet.frames events ++ rest := hsocket ▸ hunread
  have hpassed : (c'.pass events rest).socket = (c.pass events rest).socket := by
    simp only [Connection.pass, hsocket]
  rw [awaitReply_pass events hevents hunread, awaitReply_pass events hevents hunread',
    awaitReply_eq_settle hstop, awaitReply_eq_settle (hpassed ▸ hstop)]
  exact settle_over hpassed hserial (hjournal.append _)

/-- Waiting for a reply, by induction on how the streams differ: a frame is the same to both, and
an event that only the second has is passed over. -/
theorem awaitReply_apart (h : Apart seen coming c c') :
    SameEnd (Alike (seen ++ coming)) (awaitReply procedure serial c)
      (awaitReply procedure serial c') := by
  obtain ⟨plain, hplain⟩ : ∃ plain, plain = c.socket.unread := ⟨_, rfl⟩
  obtain ⟨padded, hpadded⟩ : ∃ padded, padded = c'.socket.unread := ⟨_, rfl⟩
  have hstream := h.stream
  rw [← hplain, ← hpadded] at hstream
  induction hstream generalizing seen c c' with
  | tail rest =>
    rw [List.append_nil]
    refine awaitReply_over ?_ h.serial_eq h.journal
    rw [h.socket_eq, ← hpadded, hplain]
  | @frame events frame plain padded hframe hrest ih =>
    rw [awaitReply_received (hframe.received hplain.symm),
      awaitReply_received (hframe.received hpadded.symm)]
    have hread := h.read hrest
    cases Packet.decode (frame.drop 4) with
    | error e => exact .error _ hread.alike
    | ok p =>
      dsimp only
      by_cases hkind : p.kind = .message
      · rw [if_pos hkind, if_pos hkind]
        exact ih (hread.note _) rfl rfl
      · rw [if_neg hkind, if_neg hkind]
        cases outcome procedure serial p with
        | error e => exact .error e hread.alike
        | ok payload => exact .ok payload hread.alike
  | @event e events plain padded hevent hrest ih =>
    rw [awaitReply_event hevent hpadded.symm]
    have hpassed := ih (h.pass (e := e) hplain.symm hrest) hplain rfl
    rwa [List.append_assoc] at hpassed

theorem Apart.canSend_iff (h : Apart seen coming c c') :
    c'.socket.CanSend ↔ c.socket.CanSend := by
  rw [h.socket_eq]
  rfl

theorem Apart.outgoing_eq (h : Apart seen coming c c') (procedure : Procedure) (payload : Bytes) :
    c'.outgoing procedure payload = c.outgoing procedure payload := by
  rw [outgoing, outgoing, h.serial_eq]

theorem Apart.begin (h : Apart seen coming c c') (procedure : Procedure) :
    Apart seen coming (c.begin procedure) (c'.begin procedure) := by
  refine ⟨h.socket_eq, ?_, h.stream, ?_⟩
  · change c'.serial + 1 = c.serial + 1
    rw [h.serial_eq]
  · have hcalled : (c'.begin procedure).journal =
        c'.journal.push (.event (.call procedure c.serial)) := by
      rw [← h.serial_eq]
      rfl
    rw [hcalled]
    exact h.journal.both _

theorem Apart.sending (h : Apart seen coming c c') (p : Packet) :
    Apart seen coming (c.sending p) (c'.sending p) := by
  refine ⟨?_, h.serial_eq, h.stream, h.journal⟩
  simp only [Connection.sending]
  rw [h.socket_eq]

/-- A call finds its reply behind the events, and does with it what it would do without them. -/
theorem keeps_call (procedure : Procedure) (payload : Bytes) :
    Keeps (Alike events) (call procedure payload) := by
  rintro c c' ⟨seen, coming, rfl, h⟩
  have hbegun := h.begin procedure
  have houtgoing := h.outgoing_eq procedure payload
  by_cases hsize : (c.outgoing procedure payload).size ≤ packetMaximum
  · by_cases hsend : c.socket.CanSend
    · rw [call_sends hsize hsend, call_sends (houtgoing ▸ hsize) (h.canSend_iff.mpr hsend),
        houtgoing, h.serial_eq]
      exact awaitReply_apart (hbegun.sending _)
    · rw [call_unsendable hsize hsend,
        call_unsendable (houtgoing ▸ hsize) fun hsend' => hsend (h.canSend_iff.mp hsend')]
      exact .error _ hbegun.alike
  · have hlarge := Nat.lt_of_not_le hsize
    rw [call_tooLarge hlarge, call_tooLarge (houtgoing ▸ hlarge), houtgoing]
    exact .error _ hbegun.alike

theorem keeps_request (procedure : Procedure) (args : Xdr.Datum) (reply : Xdr.Reader α) :
    Keeps (Alike events) (request procedure args reply) := by
  unfold request
  cases args.encode with
  | error e => exact .throw _
  | ok payload =>
    refine (keeps_call procedure payload).bind fun answer => ?_
    cases reply answer with
    | ok a rest => exact .pure a
    | error e rest => exact .throw _

/-- What changes both sockets in the same way, whatever is unread. -/
theorem Alike.onSocket {f : Socket → Socket}
    (hf : ∀ s unread, f { s with unread } = { f s with unread }) (h : Alike events c c') :
    Alike events { c with socket := f c.socket } { c' with socket := f c'.socket } := by
  obtain ⟨seen, coming, rfl, h⟩ := h
  have hunread (s : Socket) : (f s).unread = s.unread := by
    have hs := hf s s.unread
    rw [show { s with unread := s.unread } = s from rfl] at hs
    rw [hs]
  refine ⟨seen, coming, rfl, ?_, h.serial_eq, ?_, h.journal⟩
  · dsimp only
    rw [h.socket_eq, hf]
  · dsimp only
    rw [hunread, hunread]
    exact h.stream

theorem keeps_shutdown : Keeps (Alike events) shutdown := by
  intro c c' h
  exact .ok () (h.onSocket (f := fun s => { s with writeShut := true }) fun _ _ => rfl)

theorem keeps_blaming {x : Dialogue α} (hx : Keeps (Alike events) x) (blame : Error → Error) :
    Keeps (Alike events) (blaming blame x) := by
  refine hx.renamed blame ?_ ?_
  · intro c a d h
    simp only [blaming, h]
  · intro c e d h
    simp only [blaming, h]

end Connection

/-- Whatever a step does, it does over both. -/
theorem Step.keeps {events : List Packet} (step : Step α) :
    Keeps (Connection.Alike events) step.perform := by
  cases step with
  | call procedure payload => exact (Connection.keeps_call procedure payload).map _
  | request procedure args reply => exact (Connection.keeps_request procedure args reply).map _
  | shutdown => exact Connection.keeps_shutdown.bind fun _ => .pure _
  | peerLeaves =>
    refine (Keeps.modify fun c c' h => ?_).bind fun _ => .pure _
    refine h.onSocket fun s unread => ?_
    unfold Socket.losePeer
    split <;> rfl

namespace Turn

def answer (t : Turn α) : Except Error (Answer α) :=
  match t.result with
  | .ok a _ => .ok a
  | .error e _ => .error e

/-- A turn comes to the same, and the next one starts from connections that are alike still. -/
theorem answer_eq {events : List Packet} {c c' : Connection} (h : c.Alike events c')
    (step : Step α) :
    answer ⟨step, c'⟩ = answer ⟨step, c⟩ ∧
      (after ⟨step, c⟩).Alike events (after ⟨step, c'⟩) := by
  unfold answer after result
  rcases (step.keeps c c' h).ok_or_error with ⟨a, d, d', hd, hd', h⟩ | ⟨e, d, d', hd, hd', h⟩
  · rw [hd, hd']
    exact ⟨rfl, h⟩
  · rw [hd, hd']
    exact ⟨rfl, h⟩

end Turn

def answers (c : Connection) (steps : List (Step α)) : List (Except Error (Answer α)) :=
  (turns c steps).map Turn.answer

def atEnd : Connection → List (Step α) → Connection
  | c, [] => c
  | c, step :: rest => atEnd (Turn.after ⟨step, c⟩) rest

/-- By induction on the steps. -/
theorem answers_eq {events : List Packet} {c c' : Connection} (h : c.Alike events c')
    (steps : List (Step α)) :
    answers c' steps = answers c steps ∧ (atEnd c steps).Alike events (atEnd c' steps) := by
  induction steps generalizing c c' with
  | nil => exact ⟨rfl, h⟩
  | cons step rest ih =>
    obtain ⟨hanswer, hafter⟩ := Turn.answer_eq h step
    obtain ⟨hrest, hend⟩ := ih hafter
    exact ⟨List.cons_eq_cons.mpr ⟨hanswer, hrest⟩, hend⟩

end GuestInventory.Remote
