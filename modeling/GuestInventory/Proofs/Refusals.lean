import GuestInventory.Proofs.Replies
import GuestInventory.Proofs.Sending
import GuestInventory.Proofs.Taking

/-!
Calls that the daemon refuses. A refusal is a reply of its own to the call, with the status of an
error and an error reply for a payload. It fails the call whatever the payload is: if the leading
fields of an error reply are there, with what they say, and otherwise with the reason why they
cannot be read.
-/
namespace GuestInventory.Remote

open Xdr (Datum Part Reader Takes stringMaximum utf8)

namespace ErrorReply

inductive SpellsMessage : Option String → Bytes → Prop
  | absent : SpellsMessage none (Bytes.ofWord 0)
  | present {s : String} {pad : Bytes} (hlength : (utf8 s).length ≤ stringMaximum)
      (hpad : pad.length = (Bytes.padding (utf8 s).length).length) :
      SpellsMessage (some s)
        (Bytes.ofWord 1 ++ (Bytes.ofWord (UInt32.ofNat (utf8 s).length) ++ (utf8 s ++ pad)))

/-- `lead` spells the four fields of an error reply and nothing else. -/
inductive Spells : ErrorReply → Bytes → Prop
  | fields {e : ErrorReply} {message : Bytes} (hmessage : SpellsMessage e.message message) :
      Spells e (Bytes.ofWord e.code.toUInt32 ++ (Bytes.ofWord e.domain.toUInt32 ++
        (message ++ Bytes.ofWord e.level.toUInt32)))

theorem takes_message : Takes (Reader.option Reader.string) SpellsMessage := by
  refine Takes.string.option.congr ?_
  intro message lead
  constructor
  · rintro (⟨rfl, rfl⟩ | ⟨s, _, rfl, rfl, hlength, pad, hpad, rfl⟩)
    · exact .absent
    · exact .present hlength hpad
  · rintro (_ | ⟨hlength, hpad⟩)
    · exact Or.inl ⟨rfl, rfl⟩
    · exact Or.inr ⟨_, _, rfl, rfl, hlength, _, hpad, rfl⟩

theorem takes : Takes read Spells := by
  have hall := Takes.int32.bind fun code => Takes.int32.bind fun domain =>
    takes_message.bind fun message => Takes.int32.map fun level =>
      ({ code, domain, message, level } : ErrorReply)
  refine hall.congr ?_
  intro e lead
  constructor
  · rintro ⟨code, _, _, rfl, rfl, domain, _, _, rfl, rfl, message, x, _, rfl, hmessage, level,
      rfl, rfl⟩
    exact .fields hmessage
  · rintro ⟨hmessage⟩
    exact ⟨_, _, _, rfl, rfl, _, _, _, rfl, rfl, _, _, _, rfl, hmessage, _, rfl, rfl⟩

def Leads (e : ErrorReply) (payload : Bytes) : Prop :=
  ∃ lead trailing, e.Spells lead ∧ payload = lead ++ trailing

theorem read_eq_ok_iff {e : ErrorReply} {payload : Bytes} :
    (∃ trailing, read payload = .ok e trailing) ↔ e.Leads payload := by
  constructor
  · rintro ⟨trailing, hread⟩
    obtain ⟨lead, hpayload, hspells⟩ := (takes payload e trailing).mp hread
    exact ⟨lead, trailing, hspells, hpayload⟩
  · rintro ⟨lead, trailing, hspells, hpayload⟩
    exact ⟨trailing, (takes payload e trailing).mpr ⟨lead, hpayload, hspells⟩⟩

/-- An error reply is written as it is spelled. -/
theorem leads_encode (e : ErrorReply)
    (hmessage : ∀ s, e.message = some s → (utf8 s).length ≤ stringMaximum) :
    ∃ bytes, e.datum.encode = .ok bytes ∧ ∀ trailing, e.Leads (bytes ++ trailing) := by
  obtain ⟨hplain, hreads, -⟩ := e.conveysWithin
  have hwithin : ∀ p ∈ e.parts, p.Within := by
    intro p hp
    obtain ⟨s, hs, rfl⟩ := List.mem_map.mp hp
    exact hmessage s (Option.mem_toList.mp hs)
  refine ⟨_, hplain.encode, fun trailing => ?_⟩
  exact read_eq_ok_iff.mp ⟨trailing, hreads.within hwithin trailing⟩

end ErrorReply

/-- A reply that refuses the call it answers. -/
structure Packet.Refuses (procedure : Procedure) (serial : UInt32) (p : Packet) : Prop
    extends p.Travels where
  kind_eq : p.kind = .reply
  status_eq : p.status = .error
  procedure_eq : p.procedure = procedure.number
  serial_eq : p.serial = serial

namespace Connection

variable {procedure : Procedure} {serial : UInt32} {payload : Bytes}

/-- The fields that a payload leads with settle the error, whatever the level is and whatever
follows. -/
theorem replyError_of_leads {e : ErrorReply} (h : e.Leads payload) :
    replyError payload = .reply e.code e.domain (e.message.getD "unknown error") := by
  obtain ⟨trailing, hread⟩ := ErrorReply.read_eq_ok_iff.mpr h
  rw [replyError, hread]

/-- Any other payload is a fault of the protocol. -/
theorem replyError_of_not_leads (h : ¬ ∃ e : ErrorReply, e.Leads payload) :
    ∃ cause left, ErrorReply.read payload = .error cause left ∧
      replyError payload = .undecodableReply cause := by
  cases hread : ErrorReply.read payload with
  | ok e trailing => exact absurd ⟨e, ErrorReply.read_eq_ok_iff.mp ⟨trailing, hread⟩⟩ h
  | error cause left => exact ⟨cause, left, rfl, by rw [replyError, hread]⟩

theorem replyError_eq_reply_iff :
    (∃ code domain message, replyError payload = .reply code domain message) ↔
      ∃ e : ErrorReply, e.Leads payload := by
  constructor
  · rintro ⟨code, domain, message, h⟩
    apply Classical.byContradiction
    intro hnone
    obtain ⟨cause, left, -, hcause⟩ := replyError_of_not_leads hnone
    rw [hcause] at h
    cases h
  · rintro ⟨e, hleads⟩
    exact ⟨_, _, _, replyError_of_leads hleads⟩

/-- A refusal that is next on the stream ends its call with what it says. -/
theorem settle_refused {c : Connection} {p : Packet} {rest : Bytes}
    (hp : p.Refuses procedure serial) (hc : c.socket.unread = p.frame ++ rest) :
    settle procedure serial c =
      .error (replyError p.payload) { c with socket := { c.socket with unread := rest } } := by
  have houtcome : outcome procedure serial p = .error (replyError p.payload) := by
    simp [outcome, hp.kind_eq, hp.status_eq, hp.procedure_eq, hp.serial_eq]
  simp only [settle, Socket.receive_frame hp.toTravels hc, Packet.decode_body hp.program_eq,
    houtcome]

/-- A call whose packet goes out gets the refusal that is on its way, behind whatever events come
first. -/
theorem call_refused {c : Connection} {events : List Packet} {p : Packet} {rest : Bytes}
    (hposts : c.Posts procedure payload) (hevents : ∀ e ∈ events, e.IsEvent)
    (hp : p.Refuses procedure c.serial)
    (hc : c.socket.unread = Packet.frames events ++ (p.frame ++ rest)) :
    ∃ c', call procedure payload c = .error (replyError p.payload) c' ∧
      c'.line = ⟨{ (c.sending (c.outgoing procedure payload)).socket with unread := rest },
        c.serial + 1⟩ := by
  let sent := (c.begin procedure).sending (c.outgoing procedure payload)
  have hsent : sent.socket.unread = Packet.frames events ++ (p.frame ++ rest) := hc
  have hnext : ¬ (sent.pass events (p.frame ++ rest)).socket.EventNext := by
    refine Socket.not_eventNext hp.toTravels ?_ rfl
    rw [hp.kind_eq]
    exact Packet.Kind.noConfusion
  rw [call_sends hposts.1 hposts.2, awaitReply_pass events hevents hsent,
    awaitReply_eq_settle hnext, settle_refused hp rfl]
  exact ⟨_, rfl, rfl⟩

end Connection

/-- A refusal fails the call it answers, with or without a reader for its answer. The error is the
daemon's own exactly if the payload begins with the fields of an error reply: then it has their
code, domain and message, whatever the level is and whatever follows. Of any other payload the error
says why it cannot be read. -/
theorem refused_with_cause :
    (∀ (t : Turn α) (procedure : Procedure) (payload : Bytes) (events : List Packet) (p : Packet)
        (rest : Bytes), t.step.Calls procedure payload → t.before.Posts procedure payload →
      (∀ e ∈ events, e.IsEvent) → p.Refuses procedure t.before.serial →
      t.before.socket.unread = Packet.frames events ++ (p.frame ++ rest) →
      ∃ error c, t.result = .error error c ∧ c.socket.unread = rest ∧
        (∀ e : ErrorReply, e.Leads p.payload →
          error = .reply e.code e.domain (e.message.getD "unknown error")) ∧
        ((∃ code domain message, error = .reply code domain message) ↔
          ∃ e : ErrorReply, e.Leads p.payload) ∧
        ((¬ ∃ e : ErrorReply, e.Leads p.payload) →
          ∃ cause left, ErrorReply.read p.payload = .error cause left ∧
            error = .undecodableReply cause ∧ error.area? = some .protocol ∧
            error.message = "protocol error: undecodable error reply: " ++ cause.message)) ∧
    ∀ e : ErrorReply, (∀ s, e.message = some s → (utf8 s).length ≤ stringMaximum) →
      ∃ bytes, e.datum.encode = .ok bytes ∧ ∀ trailing, e.Leads (bytes ++ trailing) := by
  refine ⟨?_, fun e h => e.leads_encode h⟩
  intro t procedure payload events p rest hcalls hposts hevents hp hunread
  obtain ⟨c, hcall, hline⟩ := Connection.call_refused hposts hevents hp hunread
  have hleft : c.socket.unread = rest := congrArg (fun l : Line => l.socket.unread) hline
  refine ⟨_, c, Turn.result_of_calls hcalls hcall, hleft, ?_, ?_, ?_⟩
  · exact fun e hleads => Connection.replyError_of_leads hleads
  · exact Connection.replyError_eq_reply_iff
  · intro hnone
    obtain ⟨cause, left, hread, herror⟩ := Connection.replyError_of_not_leads hnone
    rw [herror]
    exact ⟨cause, left, hread, rfl, rfl, rfl⟩

def speechless : ErrorReply := { code := 42, domain := 10, message := none, level := 2 }

def spontaneous : Packet := { Packet.reply 318 0 .ok [] with kind := .message }

def refusedLookup (payload : Bytes) : Packet :=
  Packet.reply Procedure.domainLookupById.number 1 .error payload

def lookupRefused (payload : Bytes) : Turn FoundDomain where
  step := .request .domainLookupById (LookupArgs.datum ⟨7⟩) FoundDomain.read
  before := { socket := { unread := Packet.frames [spontaneous] ++ (refusedLookup payload).frame } }

/-- A refusal without words gets the default ones, and a payload that breaks off is a fault of the
protocol. -/
theorem refused_with_cause_lookup :
    (∃ c, (lookupRefused [0, 0, 0, 42, 0, 0, 0, 10, 0, 0, 0, 0, 0, 0, 0, 2, 9, 9]).result =
      .error (.reply 42 10 "unknown error") c) ∧
    ∃ error c, (lookupRefused [0, 0, 0, 42]).result = .error error c ∧
      error.message = "protocol error: undecodable error reply: unexpected end of input" := by
  obtain ⟨hrefused, hencoded⟩ := refused_with_cause (α := FoundDomain)
  have hevents : ∀ e ∈ [spontaneous], e.IsEvent :=
    List.forall_mem_singleton.mpr ⟨⟨rfl, by decide⟩, rfl⟩
  have hresult (payload : Bytes) (hsize : (refusedLookup payload).size ≤ packetMaximum) :=
    hrefused (lookupRefused payload) .domainLookupById [0, 0, 0, 7] [spontaneous]
      (refusedLookup payload) [] (.request _ _ rfl) ⟨Nat.le_of_ble_eq_true rfl, rfl, rfl⟩ hevents
      ⟨⟨rfl, hsize⟩, rfl, rfl, rfl, rfl⟩ (by rw [List.append_nil]; rfl)
  constructor
  · obtain ⟨error, c, hresult, -, htold, -⟩ :=
      hresult [0, 0, 0, 42, 0, 0, 0, 10, 0, 0, 0, 0, 0, 0, 0, 2, 9, 9] (by decide)
    obtain ⟨bytes, hencode, hleads⟩ := hencoded speechless (fun s hs => nomatch hs)
    have hbytes : bytes = [0, 0, 0, 42, 0, 0, 0, 10, 0, 0, 0, 0, 0, 0, 0, 2] :=
      (Except.ok.inj hencode).symm
    have hpayload := hleads [9, 9]
    rw [hbytes] at hpayload
    obtain rfl := htold speechless hpayload
    exact ⟨c, hresult⟩
  · obtain ⟨error, c, hresult, -, -, -, hcause⟩ := hresult [0, 0, 0, 42] (by decide)
    have hread : ErrorReply.read [0, 0, 0, 42] = .error .endOfInput [] := rfl
    have hshort : ¬ ∃ e : ErrorReply, e.Leads [0, 0, 0, 42] := by
      rintro ⟨e, hleads⟩
      obtain ⟨trailing, hok⟩ := ErrorReply.read_eq_ok_iff.mpr hleads
      rw [hread] at hok
      cases hok
    obtain ⟨cause, left, hfailed, -, -, hmessage⟩ := hcause hshort
    obtain rfl : Xdr.Error.endOfInput = cause := by
      have hsame := hread.symm.trans hfailed
      cases hsame
      rfl
    exact ⟨error, c, hresult, hmessage⟩

end GuestInventory.Remote
