import GuestInventory.Proofs.Gate

/-!
A daemon that plays a script. Each line of the script is a question and its answer; the stream has
the answers in order, with some events before each. A connection that faces the rest of a script
and asks its next question gets the answer, and faces what is left of the script.
-/
namespace GuestInventory

/-- From every state that is `before`, an action gives `a` and leaves a state that is `after`. -/
def Gives (before : σ → Prop) (x : EStateM ε σ α) (a : α) (after : σ → Prop) : Prop :=
  ∀ s, before s → ∃ s', x s = .ok a s' ∧ after s'

namespace Gives

variable {before between after : σ → Prop} {x : EStateM ε σ α} {a : α} {b : β}

theorem pure (h : ∀ s, before s → after s) :
    Gives before (Pure.pure a : EStateM ε σ α) a after :=
  fun s hs => ⟨s, rfl, h s hs⟩

theorem bind {f : α → EStateM ε σ β} (hx : Gives before x a between)
    (hf : Gives between (f a) b after) : Gives before (x >>= f) b after := by
  intro s hs
  obtain ⟨s', hxs, hs'⟩ := hx s hs
  obtain ⟨s'', hfs, hs''⟩ := hf s' hs'
  exact ⟨s'', Xdr.bind_eq_ok.mpr ⟨a, s', hxs, hfs⟩, hs''⟩

/-- A last step that only computes. -/
theorem bind_pure {f : α → EStateM ε σ β} (hx : Gives before x a after)
    (hf : f a = Pure.pure b) : Gives before (x >>= f) b after := by
  refine hx.bind ?_
  rw [hf]
  exact pure fun s hs => hs

theorem modify {f : σ → σ} (h : ∀ s, before s → after (f s)) :
    Gives before (modify f : EStateM ε σ PUnit) ⟨⟩ after :=
  fun s hs => ⟨f s, rfl, h s hs⟩

/-- What succeeds when `x` does gives what `x` gives. -/
theorem of_ok {y : EStateM ε' σ α} (hx : Gives before x a after)
    (hy : ∀ s s', x s = .ok a s' → y s = .ok a s') : Gives before y a after := by
  intro s hs
  obtain ⟨s', hxs, hs'⟩ := hx s hs
  exact ⟨s', hy s s' hxs, hs'⟩

end Gives

namespace Remote

open Xdr (Datum Reader)

structure Told where
  procedure : Procedure
  asked : Bytes
  answered : Bytes

namespace Told

def question (t : Told) (n : UInt32) : Packet := Packet.call t.procedure.number n t.asked

def answer (t : Told) (n : UInt32) : Packet := Packet.reply t.procedure.number n .ok t.answered

structure Travels (t : Told) : Prop where
  asked_le : 28 + t.asked.length ≤ packetMaximum
  answered_le : 28 + t.answered.length ≤ packetMaximum

theorem Travels.answered_le_stringMaximum {t : Told} (h : t.Travels) :
    t.answered.length ≤ Xdr.stringMaximum := by
  have hle := h.answered_le
  unfold packetMaximum at hle
  unfold Xdr.stringMaximum
  omega

theorem Travels.repliesTo {t : Told} (h : t.Travels) (n : UInt32) :
    (t.answer n).RepliesTo t.procedure n :=
  ⟨⟨rfl, h.answered_le⟩, rfl, rfl, rfl, rfl⟩

end Told

/-- The answers of a script from the serial `n` on, each behind the events that come before it. -/
def stream (events : UInt32 → List Packet) : UInt32 → List Told → Bytes
  | _, [] => []
  | n, t :: script =>
    Packet.frames (events n) ++ ((t.answer n).frame ++ stream events (n + 1) script)

def questions : UInt32 → List Told → List Bytes
  | _, [] => []
  | n, t :: script => (t.question n).frame :: questions (n + 1) script

/-- Every question of a script travels, so none is left out of what is sent. -/
theorem calledInTurn_questions (n : UInt32) (script : List Told) (h : ∀ t ∈ script, t.Travels) :
    CalledInTurn n (script.map fun t => (t.procedure, t.asked)) (questions n script) := by
  induction script generalizing n with
  | nil => exact .nil n
  | cons t script ih =>
    obtain ⟨ht, hscript⟩ := List.forall_mem_cons.mp h
    exact .sent (Procedure.calledWith_frame ht.asked_le) (ih (n + 1) hscript)

/-- All that is left to read is the rest of a script, and with the rest of its questions the frames
sent will be `total`. -/
structure Facing (events : UInt32 → List Packet) (total : Array Bytes) (script : List Told)
    (c : Connection) : Prop where
  canSend : c.socket.CanSend
  unread_eq : c.socket.unread = stream events c.serial script
  sent_eq : c.socket.sent ++ (questions c.serial script).toArray = total

/-- Only the line matters to what a connection faces. -/
theorem Facing.of_line {events : UInt32 → List Packet} {total : Array Bytes} {script : List Told}
    {c c' : Connection} (h : Facing events total script c) (hline : c'.line = c.line) :
    Facing events total script c' := by
  have hsocket : c'.socket = c.socket := congrArg Line.socket hline
  have hserial : c'.serial = c.serial := congrArg Line.serial hline
  refine ⟨?_, ?_, ?_⟩
  · rw [hsocket]
    exact h.canSend
  · rw [hsocket, hserial]
    exact h.unread_eq
  · rw [hsocket, hserial]
    exact h.sent_eq

theorem gives_blaming {before after : Connection → Prop} {x : Dialogue α} {a : α}
    (hx : Gives before x a after) (blame : Error → Error) :
    Gives before (Connection.blaming blame x) a after := by
  refine hx.of_ok ?_
  intro c c' h
  simp only [Connection.blaming, h]

namespace Told

def schemes (l : List AuthScheme) : Told :=
  ⟨.authList, Datum.void.wire, (SchemeList.datum ⟨l⟩).wire⟩

def opened (uri : String) (data : Bytes) : Told :=
  ⟨.connectOpen, (Session.opening uri).datum.wire, data⟩

def count (n : Int32) : Told :=
  ⟨.connectNumOfDomains, Datum.void.wire, (DomainCount.datum ⟨n⟩).wire⟩

def ids (n : Int32) (l : List Int32) : Told :=
  ⟨.connectListDomains, (Session.listing n).datum.wire, (DomainIds.datum ⟨l⟩).wire⟩

def domain (id : Int32) (d : Domain) : Told :=
  ⟨.domainLookupById, (LookupArgs.datum ⟨id⟩).wire, (FoundDomain.datum ⟨d⟩).wire⟩

def interfaces (d : Domain) (l : List Interface) : Told :=
  ⟨.domainInterfaceAddresses, (AddressesArgs.datum ⟨d, .lease, 0⟩).wire,
    (InterfaceList.datum ⟨l⟩).wire⟩

def closed (data : Bytes) : Told := ⟨.connectClose, Datum.void.wire, data⟩

end Told

section Request

variable {events : UInt32 → List Packet} (hevents : ∀ n, ∀ e ∈ events n, e.IsEvent)
    {total : Array Bytes} {script : List Told}
include hevents

/-- The next question gets its answer. -/
theorem gives_request {procedure : Procedure} {args : Datum} {data rest : Bytes}
    {reply : Reader α} {a : α} (ht : Told.Travels ⟨procedure, args.wire, data⟩)
    (hargs : args.Plain) (hread : reply data = .ok a rest) :
    Gives (Facing events total (⟨procedure, args.wire, data⟩ :: script))
      (Connection.request procedure args reply) a (Facing events total script) := by
  intro c hc
  obtain ⟨c', hrequest, hline⟩ := Connection.request_replied hargs.encode ht.asked_le hc.canSend
    (hevents c.serial) (ht.repliesTo c.serial) hc.unread_eq hread
  refine ⟨c', hrequest, ?_⟩
  have hsocket := congrArg Line.socket hline
  have hserial := congrArg Line.serial hline
  simp only [Connection.line] at hsocket hserial
  refine ⟨?_, ?_, ?_⟩
  · rw [hsocket]
    exact hc.canSend
  · rw [hsocket, hserial]
  · rw [hsocket, hserial, ← hc.sent_eq]
    simp [Connection.sending, questions, Told.question, Connection.outgoing]

namespace Session

theorem gives_authenticate {l : List AuthScheme} (ht : (Told.schemes l).Travels)
    (hlength : l.length ≤ schemeMaximum) (hfree : l = [] ∨ .none ∈ l) :
    Gives (Facing events total (.schemes l :: script)) authenticate ()
      (Facing events total script) := by
  have hread := (SchemeList.conveys ⟨l⟩ hlength).read
  have hsettled : SchemeList.Free ⟨l.map AuthScheme.settled⟩ := by
    rcases hfree with rfl | hnone
    · exact Or.inl rfl
    · exact Or.inr (List.mem_map_of_mem hnone)
  intro c hc
  obtain ⟨c', hlist, hc'⟩ := gives_request hevents ht Datum.plain_void hread c hc
  exact ⟨c', authenticate_of_free hlist hsettled, hc'⟩

/-- A session is opened by two questions, and whatever the second is answered. -/
theorem gives_start {l : List AuthScheme} {uri : String} {data : Bytes}
    (ht : (Told.schemes l).Travels) (hlength : l.length ≤ schemeMaximum)
    (hfree : l = [] ∨ .none ∈ l) (htopen : (Told.opened uri data).Travels) :
    Gives (Facing events total (.schemes l :: .opened uri data :: script)) (start uri) ()
      (Facing events total script) := by
  refine (gives_authenticate hevents ht hlength hfree).bind ?_
  have hopen : Gives (Facing events total (.opened uri data :: script))
      (Connection.request .connectOpen (opening uri).datum (pure ())) ()
      (Facing events total script) :=
    gives_request hevents htopen (opening uri).plain rfl
  exact (gives_blaming hopen .openRefused).bind (.modify fun c hc => hc.of_line rfl)

theorem gives_domainCount {n : Int32} (ht : (Told.count n).Travels) :
    Gives (Facing events total (.count n :: script)) domainCount n
      (Facing events total script) :=
  (gives_request hevents ht Datum.plain_void (DomainCount.conveys ⟨n⟩).read).bind_pure rfl

/-- Of no domains nothing more is asked. -/
theorem gives_domainIds_idle {n : Int32} (ht : (Told.count n).Travels) (hn : n ≤ 0) :
    Gives (Facing events total (.count n :: script)) domainIds [] (Facing events total script) := by
  refine (gives_domainCount hevents ht).bind_pure ?_
  simp only [if_pos hn]

theorem gives_domainIds {n : Int32} {l : List Int32} (ht : (Told.count n).Travels) (hn : 0 < n)
    (htids : (Told.ids n l).Travels) (hlength : l.length ≤ domainMaximum) :
    Gives (Facing events total (.count n :: .ids n l :: script)) domainIds l
      (Facing events total script) := by
  refine (gives_domainCount hevents ht).bind ?_
  simp only [if_neg (Int32.not_le.mpr hn)]
  have hread := (DomainIds.conveys ⟨l⟩ hlength).read
  exact (gives_request hevents htids (listing n).plain hread).bind_pure rfl

theorem gives_lookup {id : Int32} {d : Domain} (ht : (Told.domain id d).Travels) :
    Gives (Facing events total (.domain id d :: script)) (lookup id) d
      (Facing events total script) := by
  have hread := (FoundDomain.conveys ⟨d⟩ ht.answered_le_stringMaximum).read
  exact (gives_request hevents ht (LookupArgs.plain ⟨id⟩) hread).bind_pure rfl

theorem gives_interfaces {d : Domain} {l : List Interface} (ht : (Told.interfaces d l).Travels)
    (hinterfaces : l.length ≤ interfaceMaximum)
    (haddresses : ∀ i ∈ l, i.addresses.length ≤ addressMaximum) :
    Gives (Facing events total (.interfaces d l :: script)) (interfaces d .lease)
      (l.map Interface.settled) (Facing events total script) := by
  have hread := (InterfaceList.conveys ⟨l⟩ hinterfaces haddresses
    ht.answered_le_stringMaximum).read
  exact (gives_request hevents ht (AddressesArgs.plain ⟨d, .lease, 0⟩) hread).bind_pure rfl

/-- The last question is asked and answered, and nothing more can be said. -/
theorem gives_finish {data : Bytes} (ht : (Told.closed data).Travels) :
    Gives (Facing events total [.closed data]) finish () fun c =>
      c.socket.unread = [] ∧ c.socket.sent = total ∧ c.socket.writeShut = true := by
  have hclose : Gives (Facing events total [.closed data])
      (Connection.request .connectClose .void (pure ())) () (Facing events total []) :=
    gives_request hevents ht Datum.plain_void rfl
  refine (gives_blaming hclose .closeRefused).bind ?_
  intro c hc
  refine ⟨{ c with socket := { c.socket with writeShut := true } }, rfl, hc.unread_eq, ?_, rfl⟩
  have hsent := hc.sent_eq
  rwa [questions, Array.append_empty] at hsent

end Session

end Request

end Remote

end GuestInventory
