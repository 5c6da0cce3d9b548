import GuestInventory.Proofs.Arguments
import GuestInventory.Proofs.SessionTalks
import GuestInventory.Survey.Wire

/-!
The order in which a survey over a socket calls its procedures, whatever the daemon writes. A
session is opened first, then the domains are asked for and visited one after another up to the
first failure, and what was opened is closed by one last call.
-/
namespace GuestInventory.Survey

open Remote Xdr

inductive Visited (id : Int32) : List Exchange → Prop
  | intro {x y : Exchange} {f : FoundDomain} {l : InterfaceList}
      (hx : x.Answered .domainLookupById (LookupArgs.datum ⟨id⟩) FoundDomain.read f)
      (hy : y.Answered .domainInterfaceAddresses (AddressesArgs.datum ⟨f.domain, .lease, 0⟩)
        InterfaceList.read l) : Visited id [x, y]

inductive Unvisited (id : Int32) : List Exchange → Prop
  | unfound {x : Exchange}
      (hx : x.Unanswered .domainLookupById (LookupArgs.datum ⟨id⟩) FoundDomain.read) :
      Unvisited id [x]
  | unanswered {x y : Exchange} {f : FoundDomain}
      (hx : x.Answered .domainLookupById (LookupArgs.datum ⟨id⟩) FoundDomain.read f)
      (hy : y.Unanswered .domainInterfaceAddresses (AddressesArgs.datum ⟨f.domain, .lease, 0⟩)
        InterfaceList.read) : Unvisited id [x, y]

inductive AllVisited : List Int32 → List Exchange → Prop
  | nil : AllVisited [] []
  | cons {id : Int32} {ids : List Int32} {talk more : List Exchange} (h : Visited id talk)
      (hmore : AllVisited ids more) : AllVisited (id :: ids) (talk ++ more)

/-- Exchanges about domains up to one that could not be visited. -/
inductive CutShort : List Int32 → List Exchange → Prop
  | here {id : Int32} {ids : List Int32} {talk : List Exchange} (h : Unvisited id talk) :
      CutShort (id :: ids) talk
  | later {id : Int32} {ids : List Int32} {talk more : List Exchange} (h : Visited id talk)
      (hmore : CutShort ids more) : CutShort (id :: ids) (talk ++ more)

inductive Surveyed : List Exchange → Prop
  | intro {ids : List Int32} {talk more : List Exchange} (htalk : Session.Listed ids talk)
      (hmore : AllVisited ids more) : Surveyed (talk ++ more)

inductive Unsurveyed : List Exchange → Prop
  | unlisted {talk : List Exchange} (htalk : Session.Unlisted talk) : Unsurveyed talk
  | cutShort {ids : List Int32} {talk more : List Exchange} (htalk : Session.Listed ids talk)
      (hmore : CutShort ids more) : Unsurveyed (talk ++ more)

theorem Visited.closeFree {id : Int32} {talk : List Exchange} (h : Visited id talk) :
    CloseFree talk := by
  cases h with
  | intro hx hy => exact (hx.closeFree nofun).append (hy.closeFree nofun)

theorem Unvisited.closeFree {id : Int32} {talk : List Exchange} (h : Unvisited id talk) :
    CloseFree talk := by
  cases h with
  | unfound hx => exact hx.closeFree nofun
  | unanswered hx hy => exact (hx.closeFree nofun).append (hy.closeFree nofun)

theorem AllVisited.closeFree {ids : List Int32} {talk : List Exchange}
    (h : AllVisited ids talk) : CloseFree talk := by
  induction h with
  | nil => exact List.forall_mem_nil _
  | cons h hmore ih => exact h.closeFree.append ih

theorem CutShort.closeFree {ids : List Int32} {talk : List Exchange} (h : CutShort ids talk) :
    CloseFree talk := by
  induction h with
  | here h => exact h.closeFree
  | later h hmore ih => exact h.closeFree.append ih

theorem Surveyed.closeFree {talk : List Exchange} (h : Surveyed talk) : CloseFree talk := by
  cases h with
  | intro htalk hmore => exact htalk.closeFree.append hmore.closeFree

theorem Unsurveyed.closeFree {talk : List Exchange} (h : Unsurveyed talk) : CloseFree talk := by
  cases h with
  | unlisted htalk => exact htalk.closeFree
  | cutShort htalk hmore => exact htalk.closeFree.append hmore.closeFree

theorem talks_overWire {action : Dialogue α} {passed : α → List Exchange → Prop}
    {failed : List Exchange → Prop} (h : Talks action passed failed) :
    Talks (overWire action) passed failed := by
  refine h.renamed .remote ?_ ?_
  · intro c a c' hok
    simp only [overWire, hok]
  · intro c e c' herror
    simp only [overWire, herror]

theorem talks_visit (user : String) (inventory : Inventory) (id : Int32) :
    Talks (visit wire user inventory id) (fun _ => Visited id) (Unvisited id) := by
  refine (talks_overWire (Session.talks_lookup id)).bind ?_ ?_
  · intro talk htalk
    obtain ⟨hx⟩ := htalk
    exact .unfound hx
  intro domain talk htalk
  obtain ⟨hx⟩ := htalk
  refine (talks_overWire (Session.talks_interfaces domain .lease)).bind ?_ ?_
  · intro talk htalk
    obtain ⟨hy⟩ := htalk
    exact .unanswered hx hy
  intro found talk htalk
  obtain ⟨hy⟩ := htalk
  dsimp only
  -- With a lease or without, what is left is a note and the inventory.
  split
  · exact .note_bind (fun c => rfl) (.pure (.intro hx hy))
  · exact .note_bind (fun c => rfl) (.pure (.intro hx hy))

/-- By induction on the ids: a domain that could not be visited ends the pass. -/
theorem talks_visitAll (user : String) (inventory : Inventory) (ids : List Int32) :
    Talks (visitAll wire user inventory ids) (fun _ => AllVisited ids) (CutShort ids) := by
  induction ids generalizing inventory with
  | nil => exact .pure .nil
  | cons id ids ih =>
    refine (talks_visit user inventory id).bind (fun _ => .here) ?_
    intro inventory talk htalk
    exact (ih inventory).imp (fun _ _ => .cons htalk) (fun _ => .later htalk)

/-- A survey asks for the ids first, and for one domain after another then. -/
theorem talks_collect (user : String) :
    Talks (collect wire user) (fun _ => Surveyed) Unsurveyed := by
  refine (talks_overWire Session.talks_domainIds).bind (fun _ => .unlisted) ?_
  intro ids talk htalk
  exact (talks_visitAll user .empty ids).imp (fun _ _ => .intro htalk) (fun _ => .cutShort htalk)

/-- Closing is one exchange more, whatever comes of it. -/
theorem closeQuietly_held (c : Connection) :
    ∃ x line, Held c.line [x] line ∧ x.Asks .connectClose .void ∧
      (closeQuietly wire c).socket.sent = line.socket.sent := by
  have htalks := Talks.request .connectClose (pure () : Reader Unit) Datum.plain_void
  cases hclose : Connection.request .connectClose .void (pure () : Reader Unit) c with
  | ok u c' =>
    obtain ⟨_, hheld, ⟨hx⟩⟩ := htalks.of_ok c u c' hclose
    refine ⟨_, c'.line, hheld, hx.toAsks, ?_⟩
    simp [closeQuietly, wire, overWire, Session.finish, Connection.blaming, hclose, Bind.bind,
      EStateM.bind, Connection.shutdown, Connection.onSocket, Socket.shut, Connection.line]
  | error e c' =>
    obtain ⟨_, hheld, ⟨hx⟩⟩ := htalks.of_error c e c' hclose
    refine ⟨_, c'.line, hheld, hx.toAsks, ?_⟩
    simp [closeQuietly, wire, overWire, Session.finish, Connection.blaming, hclose, Bind.bind,
      EStateM.bind, addEntry, Connection.line]

/-- A session that was opened: `before` opens it, `survey` asks for the domains, as far as that
goes, and `last` closes it. -/
structure Closed (uri : String) (before survey : List Exchange) (last : Exchange) : Prop where
  opened : Session.Opened uri before
  surveyed : Surveyed survey ∨ Unsurveyed survey
  closes : last.Asks .connectClose .void

theorem Closed.closeFree {uri : String} {before survey : List Exchange} {last : Exchange}
    (h : Closed uri before survey last) : CloseFree (before ++ survey) := by
  refine h.opened.closeFree.append ?_
  rcases h.surveyed with hsurvey | hsurvey
  · exact hsurvey.closeFree
  · exact hsurvey.closeFree

/-- A call to close is never too large. -/
theorem Closed.sentFrames_eq {uri : String} {before survey : List Exchange} {last : Exchange}
    (h : Closed uri before survey last) (n : UInt32) :
    sentFrames n (before ++ survey ++ [last]) = sentFrames n (before ++ survey) ++
      [(last.packet (n + UInt32.ofNat (before ++ survey).length)).frame] := by
  have hpayload : last.payload = [] := (Except.ok.inj h.closes.payload_eq).symm
  rw [sentFrames_append]
  simp [sentFrames, packets, Exchange.packet, Packet.call, Packet.size, hpayload, packetMaximum]

/-- The talk of a whole run. -/
theorem generate_held (host : Host) (uri user : String) (endpoint : Endpoint) (unread : Bytes)
    (hendpoint : Endpoint.ofUri? uri = some endpoint)
    (hsocket : host.reach (host.socketPath endpoint) = .ok { unread }) :
    ∃ talk line, Held ⟨{ unread }, 1⟩ talk line ∧
      (generate (wireConnector host uri) user).sent = some line.socket.sent ∧
      (Session.Unopened uri talk ∨ ∃ before survey last,
        talk = before ++ survey ++ [last] ∧ Closed uri before survey last) := by
  have hstart := Session.talks_start uri
  cases hopen : Session.start uri { socket := { unread } } with
  | error e c =>
    obtain ⟨talk, hheld, htalk⟩ := hstart.of_error _ e c hopen
    refine ⟨talk, c.line, hheld, ?_, Or.inl htalk⟩
    simp [generate, wireConnector, Session.connect, hendpoint, hsocket, hopen, Run.sent,
      Attempt.ofRefusal, Connection.line]
  | ok u c =>
    obtain ⟨before, hbefore, hopened⟩ := hstart.of_ok _ u c hopen
    have hsent (c' : Connection) (hc' : (ending (collect wire user) c).2 = c') :
        (generate (wireConnector host uri) user).sent =
          some (closeQuietly wire c').socket.sent := by
      simp [generate, wireConnector, Session.connect, hendpoint, hsocket, hopen, Run.sent, hc']
    cases hcollect : collect wire user c with
    | ok inventory c' =>
      obtain ⟨survey, hsurvey, hsurveyed⟩ := (talks_collect user).of_ok c inventory c' hcollect
      obtain ⟨last, line, hlast, hcloses, hclosed⟩ := closeQuietly_held c'
      refine ⟨_, line, (hbefore.append hsurvey).append hlast, ?_,
        Or.inr ⟨before, survey, last, rfl, hopened, Or.inl hsurveyed, hcloses⟩⟩
      rw [hsent c' (by simp [ending, hcollect]), hclosed]
    | error e c' =>
      obtain ⟨survey, hsurvey, hsurveyed⟩ := (talks_collect user).of_error c e c' hcollect
      obtain ⟨last, line, hlast, hcloses, hclosed⟩ := closeQuietly_held c'
      refine ⟨_, line, (hbefore.append hsurvey).append hlast, ?_,
        Or.inr ⟨before, survey, last, rfl, hopened, Or.inr hsurveyed, hcloses⟩⟩
      rw [hsent c' (by simp [ending, hcollect]), hclosed]

/-- A run over `unread` that sends `sent` holds `talk`. -/
structure InOrder (uri : String) (unread : Bytes) (sent : Option (Array Bytes))
    (talk : List Exchange) : Prop where
  held : ∃ line, Held ⟨{ unread }, 1⟩ talk line
  sent_eq : sent = some (sentFrames 1 talk).toArray
  decodes : ∀ p ∈ packets 1 talk, Packet.decode (p.frame.drop 4) = .ok p
  /-- What is sent are the calls of the talk, under the serials 1, 2, and so on. -/
  called : CalledInTurn 1 (asked talk) (sentFrames 1 talk)
  /-- Of what was asked with arguments, the frame carries them. -/
  carried : ∀ x ∈ talk, ∀ a : Arguments, a.datum.encode = .ok x.payload →
    ∀ n frame, x.procedure.CalledWith n x.payload frame → Carries a x.procedure n frame
  /-- What is not sent for its size is a call that fails. -/
  failed_of_lt : ∀ x ∈ talk, packetMaximum < 28 + x.payload.length → ∃ e, x.outcome = .error e
  /-- Either the way in comes to nothing, and nothing is closed, or the session is opened and is
  closed once, last. -/
  order : (Session.Unopened uri talk ∧ CloseFree talk) ∨
    ∃ before survey last, talk = before ++ survey ++ [last] ∧ Closed uri before survey last ∧
      CloseFree (before ++ survey) ∧
      sentFrames 1 talk = sentFrames 1 (before ++ survey) ++
        [(last.packet (1 + UInt32.ofNat (before ++ survey).length)).frame]

/-- Whatever the daemon writes, a run sends the frames of a talk that is in order. The number, the
ids and the domains in it are those that the bytes of the answers spell. -/
theorem frames_in_order (host : Host) (uri user : String) (endpoint : Endpoint) (unread : Bytes)
    (hendpoint : Endpoint.ofUri? uri = some endpoint)
    (hsocket : host.reach (host.socketPath endpoint) = .ok { unread }) :
    (∃ talk, InOrder uri unread (generate (wireConnector host uri) user).sent talk) ∧
      Takes DomainCount.read DomainCount.Spells ∧ Takes DomainIds.read DomainIds.Spells ∧
      Takes FoundDomain.read FoundDomain.Spells := by
  refine ⟨?_, DomainCount.takes, DomainIds.takes, FoundDomain.takes⟩
  obtain ⟨talk, line, hheld, hrun, hkind⟩ :=
    generate_held host uri user endpoint unread hendpoint hsocket
  have hsent := (hheld.sent ⟨rfl, rfl⟩).2
  refine ⟨talk, ⟨line, hheld⟩, ?_, decode_packets 1 talk, calledInTurn_sentFrames 1 talk,
    fun x _ a hencode n frame => carries_of_calledWith hencode, hheld.failed_of_lt, ?_⟩
  · rw [hrun, hsent, Array.empty_append]
  rcases hkind with hunopened | ⟨before, survey, last, rfl, hclosed⟩
  · exact Or.inl ⟨hunopened, hunopened.closeFree⟩
  · exact Or.inr ⟨before, survey, last, rfl, hclosed, hclosed.closeFree, hclosed.sentFrames_eq 1⟩

def brokenOff : Bytes :=
  (Packet.reply Procedure.authList.number 1 .ok (SchemeList.datum ⟨[.none]⟩).wire).frame ++
    [255, 255, 255, 255]

/-- The order holds over a stream that breaks off, as far as it goes. -/
theorem frames_in_order_brokenOff :
    Endpoint.ofUri? "/s" = some (.path "/s") ∧
    ({ sockets := [("/s", brokenOff)] } : Host).reach "/s" = .ok { unread := brokenOff } ∧
    ∃ talk, InOrder "/s" brokenOff
      (generate (wireConnector { sockets := [("/s", brokenOff)] } "/s") defaultUser).sent talk := by
  have hendpoint : Endpoint.ofUri? "/s" = some (.path "/s") := by decide
  have hsocket := Host.reach_single brokenOff
  obtain ⟨htalk, -, -, -⟩ := frames_in_order { sockets := [("/s", brokenOff)] } "/s" defaultUser
    (.path "/s") brokenOff hendpoint hsocket
  exact ⟨hendpoint, hsocket, htalk⟩

def saslOnly : Packet :=
  Packet.reply Procedure.authList.number 1 .ok (SchemeList.datum ⟨[.sasl]⟩).wire

/-- The daemon need not fail a call to end a run: one that asks for more than polkit answers the
only call that it gets. -/
theorem answered_and_unopened :
    ∃ x line, Held ⟨{ unread := saslOnly.frame }, 1⟩ [x] line ∧
      x.Answered .authList .void SchemeList.read ⟨[.sasl]⟩ ∧
      (generate (wireConnector { sockets := [("/s", saslOnly.frame)] } "/s") defaultUser).sent =
        some (sentFrames 1 [x]).toArray := by
  let c : Connection := { socket := { unread := saslOnly.frame } }
  have hreply : saslOnly.RepliesTo .authList c.serial := ⟨⟨rfl, by decide⟩, rfl, rfl, rfl, rfl⟩
  have hunread : c.socket.unread = Packet.frames [] ++ (saslOnly.frame ++ []) := by simp [c]
  have hread : SchemeList.read saslOnly.payload = .ok ⟨[.sasl]⟩ [] := rfl
  obtain ⟨c', hcall, hline⟩ : ∃ c', Connection.call .authList [] c = .ok saslOnly.payload c' ∧ _ :=
    Connection.call_replied (by decide) ⟨rfl, rfl⟩ (List.forall_mem_nil _) hreply hunread
  have hrequest : Connection.request .authList .void SchemeList.read c = .ok ⟨[.sasl]⟩ c' := by
    rw [Connection.request_encoded _ Datum.plain_void.encode]
    simp only [show Datum.void.wire = [] from rfl, hcall, hread]
  have hstart : Session.start "/s" c = .error (.noScheme [.sasl]) c' := by
    simp [Session.start, Session.authenticate, Bind.bind, EStateM.bind, hrequest]
    rfl
  refine ⟨⟨.authList, [], .ok saslOnly.payload⟩, c'.line, .one (.answered hcall),
    ⟨⟨rfl, rfl⟩, _, _, rfl, hread⟩, ?_⟩
  have hsent : c'.socket.sent = #[(Packet.call Procedure.authList.number 1 []).frame] :=
    congrArg (fun l => l.socket.sent) hline
  have hendpoint : Endpoint.ofUri? "/s" = some (.path "/s") := by decide
  have hrun : (generate (wireConnector { sockets := [("/s", saslOnly.frame)] } "/s")
      defaultUser).sent = some c'.socket.sent := by
    simp [generate, wireConnector, Session.connect, hendpoint, Host.socketPath, Host.reach_single,
      hstart, c, Run.sent, Attempt.ofRefusal]
  rw [hrun, hsent]
  rfl

end GuestInventory.Survey
