import GuestInventory.Proofs.Interjections
import GuestInventory.Proofs.Order

/-!
A whole run is not disturbed by events. Every part of a session and of a survey is put together from
requests, so over streams that differ in events alone two runs come to the same inventory or the
same error and send the same frames, and their journals differ by one record for each event read.
-/
namespace GuestInventory

open Remote

namespace Remote.Session

open Connection

variable {events : List Packet}

theorem keeps_authenticate : Keeps (Alike events) authenticate := by
  unfold authenticate
  refine (keeps_request _ _ _).bind fun offered => ?_
  split
  · exact .pure _
  split
  · refine (keeps_request _ _ _).bind fun outcome => ?_
    split
    · exact (Keeps.throw _).bind fun _ => .pure _
    · exact .pure _
  · exact .throw _

theorem keeps_note (e : Log.Event) :
    Keeps (Alike events) (modify (note e) : Dialogue PUnit) := by
  refine .modify ?_
  rintro c c' ⟨seen, coming, rfl, h⟩
  exact (h.note e).alike

theorem keeps_start (uri : String) : Keeps (Alike events) (start uri) :=
  keeps_authenticate.bind fun _ =>
    (keeps_blaming (keeps_request _ _ _) _).bind fun _ => keeps_note (.opened uri)

theorem keeps_domainCount : Keeps (Alike events) domainCount := (keeps_request _ _ _).map _

theorem keeps_domainIds : Keeps (Alike events) domainIds := by
  unfold domainIds
  refine keeps_domainCount.bind fun count => ?_
  split
  · exact .pure _
  · exact (keeps_request _ _ _).map _

theorem keeps_lookup (id : Int32) : Keeps (Alike events) (lookup id) := (keeps_request _ _ _).map _

theorem keeps_interfaces (domain : Domain) (source : AddressSource) :
    Keeps (Alike events) (interfaces domain source) := (keeps_request _ _ _).map _

theorem keeps_finish : Keeps (Alike events) finish :=
  (keeps_blaming (keeps_request _ _ _) _).bind fun _ => keeps_shutdown

end Remote.Session

namespace Survey

open Connection

variable {events : List Packet} {c c' : Connection}

theorem keeps_overWire {x : Dialogue α} (hx : Keeps (Alike events) x) :
    Keeps (Alike events) (overWire x) := by
  refine hx.renamed .remote ?_ ?_
  · intro c a d h
    simp only [overWire, h]
  · intro c e d h
    simp only [overWire, h]

theorem alike_addEntry (entry : Log.Entry) (h : c.Alike events c') :
    (addEntry entry c).Alike events (addEntry entry c') := by
  obtain ⟨seen, coming, rfl, h⟩ := h
  exact ⟨seen, coming, rfl, h.socket_eq, h.serial_eq, h.stream, h.journal.both entry⟩

theorem keeps_noteInto (e : Log.Event) : Keeps (Alike events) (noteInto wire e) :=
  .modify fun _ _ => alike_addEntry (.event e)

theorem keeps_visit (user : String) (inventory : Inventory) (id : Int32) :
    Keeps (Alike events) (visit wire user inventory id) := by
  unfold visit
  refine (keeps_overWire (Session.keeps_lookup id)).bind fun domain => ?_
  refine (keeps_overWire (Session.keeps_interfaces domain .lease)).bind fun interfaces => ?_
  dsimp only
  cases Group.ofHosts? (ipv4Hosts interfaces) user with
  | some group => exact (keeps_noteInto _).bind fun _ => .pure _
  | none => exact (keeps_noteInto _).bind fun _ => .pure _

/-- By induction on the ids. -/
theorem keeps_visitAll (user : String) (inventory : Inventory) (ids : List Int32) :
    Keeps (Alike events) (visitAll wire user inventory ids) := by
  induction ids generalizing inventory with
  | nil => exact .pure inventory
  | cons id rest ih => exact (keeps_visit user inventory id).bind ih

/-- A survey finds the same in both runs. -/
theorem keeps_collect (user : String) : Keeps (Alike events) (collect wire user) :=
  (keeps_overWire Session.keeps_domainIds).bind fun ids => keeps_visitAll user .empty ids

theorem alike_closeQuietly (h : c.Alike events c') :
    (closeQuietly wire c).Alike events (closeQuietly wire c') := by
  unfold closeQuietly
  rcases (keeps_overWire Session.keeps_finish c c' h).ok_or_error with
    ⟨a, d, d', hd, hd', h⟩ | ⟨e, d, d', hd, hd', h⟩
  · rw [show wire.close c = _ from hd, show wire.close c' = _ from hd']
    exact h
  · rw [show wire.close c = _ from hd, show wire.close c' = _ from hd']
    exact alike_addEntry _ h

theorem ending_eq (user : String) (h : c.Alike events c') :
    (ending (collect wire user) c').1 = (ending (collect wire user) c).1 ∧
      (ending (collect wire user) c).2.Alike events (ending (collect wire user) c').2 := by
  unfold ending
  rcases (keeps_collect user c c' h).ok_or_error with
    ⟨a, d, d', hd, hd', h⟩ | ⟨e, d, d', hd, hd', h⟩
  · rw [hd, hd']
    exact ⟨rfl, h⟩
  · rw [hd, hd']
    exact ⟨rfl, h⟩

def remains (host : Host) (uri user : String) : Option Bytes :=
  match Session.connect host uri with
  | .error refusal => refusal.connection.map fun c => c.socket.unread
  | .ok c => some (closeQuietly wire (ending (collect wire user) c).2).socket.unread

section Generate

variable {host : Host} {uri : String} (user : String) {endpoint : Endpoint} {unread : Bytes}
    (hendpoint : Endpoint.ofUri? uri = some endpoint)
    (hsocket : host.reach (host.socketPath endpoint) = .ok { unread })
include hendpoint hsocket

theorem connect_eq : Session.connect host uri =
    match Session.start uri { socket := { unread } } with
    | .ok () c => .ok c
    | .error cause c => .error ⟨cause, some c⟩ := by
  cases hstart : Session.start uri { socket := { unread } } with
  | ok opened c => simp only [Session.connect, hendpoint, hsocket, hstart]
  | error e c => simp only [Session.connect, hendpoint, hsocket, hstart]

theorem generate_of_unopened {e : Remote.Error}
    (hstart : Session.start uri { socket := { unread } } = .error e c) :
    remains host uri user = some c.socket.unread ∧ generate (wireConnector host uri) user =
      ⟨.ok .empty, .inl ⟨some c.socket.sent,
        (c.journal.push (.unopened uri)).push (.event (.unavailable (.remote e)))⟩⟩ := by
  have hconnect := connect_eq hendpoint hsocket
  rw [hstart] at hconnect
  rw [remains, generate, wireConnector, hconnect]
  exact ⟨rfl, rfl⟩

theorem generate_of_opened (hstart : Session.start uri { socket := { unread } } = .ok () c) :
    remains host uri user =
        some (closeQuietly wire (ending (collect wire user) c).2).socket.unread ∧
      generate (wireConnector host uri) user = ⟨(ending (collect wire user) c).1,
        .inr (closeQuietly wire (ending (collect wire user) c).2)⟩ := by
  have hconnect := connect_eq hendpoint hsocket
  rw [hstart] at hconnect
  rw [remains, generate, wireConnector, hconnect]
  exact ⟨rfl, rfl⟩

end Generate

/-- Of `events`, those read have left one record each, and the others are still to be read. -/
def PassedOver (events : List Packet) (rest rest' : Bytes) (journal journal' : Log.Journal) :
    Prop :=
  ∃ seen coming, events = seen ++ coming ∧ Interjected coming rest rest' ∧
    Noted seen journal journal'

theorem passedOver_of_alike (h : c.Alike events c') :
    PassedOver events c.socket.unread c'.socket.unread c.journal c'.journal := by
  obtain ⟨seen, coming, hevents, h⟩ := h
  exact ⟨seen, coming, hevents, h.stream, h.journal⟩

theorem sent_eq_of_alike (h : c.Alike events c') : c'.socket.sent = c.socket.sent := by
  obtain ⟨seen, coming, -, h⟩ := h
  rw [h.socket_eq]

def reading (unread : Bytes) (c : Connection) : Connection :=
  { c with socket := { c.socket with unread } }

theorem alike_reading {plain padded : Bytes} (h : Interjected events plain padded)
    (c : Connection) : (reading plain c).Alike events (reading padded c) :=
  ⟨[], events, rfl, rfl, rfl, h, .same _⟩

/-- The two runs over `host` and `host'`, whose streams differ in `events`. -/
structure SameRun (events : List Packet) (host host' : Host) (uri user : String) : Prop where
  result_eq : (generate (wireConnector host' uri) user).result =
    (generate (wireConnector host uri) user).result
  sent_eq : (generate (wireConnector host' uri) user).sent =
    (generate (wireConnector host uri) user).sent
  passedOver : ∃ rest rest', remains host uri user = some rest ∧
    remains host' uri user = some rest' ∧
    PassedOver events rest rest' (generate (wireConnector host uri) user).journal
      (generate (wireConnector host' uri) user).journal

/-- From the two streams, the runs are the same but for the events that were read. -/
theorem sameRun {plain padded : Bytes} (h : Interjected events plain padded) {host host' : Host}
    {uri : String} (user : String) {endpoint : Endpoint}
    (hendpoint : Endpoint.ofUri? uri = some endpoint)
    (hplain : host.reach (host.socketPath endpoint) = .ok { unread := plain })
    (hpadded : host'.reach (host'.socketPath endpoint) = .ok { unread := padded }) :
    SameRun events host host' uri user := by
  have halike := alike_reading h { socket := { unread := plain } }
  rcases (Session.keeps_start uri _ _ halike).ok_or_error with
    ⟨⟨⟩, c, c', hc, hc', halike⟩ | ⟨e, c, c', hc, hc', halike⟩
  · obtain ⟨hrest, hrun⟩ := generate_of_opened user hendpoint hplain hc
    obtain ⟨hrest', hrun'⟩ := generate_of_opened user hendpoint hpadded hc'
    obtain ⟨hresult, hended⟩ := ending_eq user halike
    have hclosed := alike_closeQuietly hended
    refine ⟨?_, ?_, _, _, hrest, hrest', ?_⟩
    · rw [hrun, hrun', hresult]
    · rw [hrun, hrun']
      exact congrArg some (sent_eq_of_alike hclosed)
    · rw [hrun, hrun']
      exact passedOver_of_alike hclosed
  · obtain ⟨hrest, hrun⟩ := generate_of_unopened user hendpoint hplain hc
    obtain ⟨hrest', hrun'⟩ := generate_of_unopened user hendpoint hpadded hc'
    obtain ⟨seen, coming, hevents, hstream, hnoted⟩ := passedOver_of_alike halike
    refine ⟨?_, ?_, _, _, hrest, hrest', seen, coming, hevents, hstream, ?_⟩
    · rw [hrun, hrun']
    · rw [hrun, hrun']
      exact congrArg some (sent_eq_of_alike halike)
    · rw [hrun, hrun']
      exact (hnoted.both _).both _

/-- Events that are put in between the frames of a stream change neither what the steps of a run
come to nor what a survey comes to, nor what is sent. They leave a record each, once they are
read. -/
theorem events_disturb_nothing {plain padded : Bytes} (h : Interjected events plain padded) :
    (∀ (c : Connection) (steps : List (Step α)),
      let left := atEnd (reading plain c) steps
      let left' := atEnd (reading padded c) steps
      answers (reading padded c) steps = answers (reading plain c) steps ∧
        left'.socket.sent = left.socket.sent ∧
        PassedOver events left.socket.unread left'.socket.unread left.journal left'.journal) ∧
    ∀ (host host' : Host) (uri user : String) (endpoint : Endpoint),
      Endpoint.ofUri? uri = some endpoint →
      host.reach (host.socketPath endpoint) = .ok { unread := plain } →
      host'.reach (host'.socketPath endpoint) = .ok { unread := padded } →
        SameRun events host host' uri user := by
  refine ⟨?_, ?_⟩
  · intro c steps left left'
    obtain ⟨hanswers, hleft⟩ := answers_eq (alike_reading h c) steps
    exact ⟨hanswers, sent_eq_of_alike hleft, passedOver_of_alike hleft⟩
  · intro host host' uri user endpoint hendpoint hplain hpadded
    exact sameRun h user hendpoint hplain hpadded

def news : Packet :=
  { program := Remote.program, version := 1, procedure := 318, kind := .message, serial := 0,
    status := .ok, payload := [0, 0, 0, 7] }

def brokenOffAmidNews : Bytes :=
  let answer := Packet.reply Procedure.authList.number 1 .ok (SchemeList.datum ⟨[.none]⟩).wire
  news.frame ++ (answer.frame ++ (news.frame ++ [255, 255, 255, 255]))

theorem interjected_brokenOff : Interjected [news, news] brokenOff brokenOffAmidNews := by
  have hnews : news.IsEvent := ⟨⟨rfl, by decide⟩, rfl⟩
  have hanswer : Framed (Packet.reply Procedure.authList.number 1 .ok
      (SchemeList.datum ⟨[.none]⟩).wire).frame := ⟨_, _, by decide, rfl, rfl⟩
  exact .event hnews (.frame hanswer (.event hnews (.tail _)))

/-- News before an answer and before a broken frame change nothing. -/
theorem events_disturb_nothing_brokenOff :
    Interjected [news, news] brokenOff brokenOffAmidNews ∧
    Endpoint.ofUri? "/s" = some (.path "/s") ∧
    ({ sockets := [("/s", brokenOff)] } : Host).reach "/s" = .ok { unread := brokenOff } ∧
    ({ sockets := [("/s", brokenOffAmidNews)] } : Host).reach "/s" =
      .ok { unread := brokenOffAmidNews } ∧
    SameRun [news, news] { sockets := [("/s", brokenOff)] }
      { sockets := [("/s", brokenOffAmidNews)] } "/s" defaultUser := by
  have hendpoint : Endpoint.ofUri? "/s" = some (.path "/s") := by decide
  have hplain := Host.reach_single brokenOff
  have hpadded := Host.reach_single brokenOffAmidNews
  have h := events_disturb_nothing (α := Unit) interjected_brokenOff
  exact ⟨interjected_brokenOff, hendpoint, hplain, hpadded,
    h.2 _ _ "/s" defaultUser (.path "/s") hendpoint hplain hpadded⟩

end Survey

end GuestInventory
