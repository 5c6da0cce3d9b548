import GuestInventory.Proofs.Order
import GuestInventory.Proofs.Script
import GuestInventory.Proofs.Tally
import GuestInventory.Survey.Roster

/-!
A survey over the daemon's socket comes to what a survey in memory comes to. Both hypervisors tell
of the same guests, one after another, and what a survey makes of a hypervisor that does so does
not depend on how the telling is done. The daemon's answers may come behind any events.
-/
namespace GuestInventory.Survey

open Remote

def Guest.settled (g : Guest) : Guest :=
  { g with interfaces := g.interfaces.map Interface.settled }

/-- A hypervisor tells of guests one after another, each as it is `heard`. Its state is
`coming rest` when `rest` are still to come, and `asked g rest` when `g` has been looked up before
them. -/
structure Tells (hv : Hypervisor σ) (heard : Guest → Guest) (guests : List Guest)
    (start : σ → Prop) (coming : List Guest → σ → Prop) (asked : Guest → List Guest → σ → Prop) :
    Prop where
  activeIds : Gives start hv.activeIds ((guests.map heard).map Guest.id) (coming guests)
  lookup : ∀ g ∈ guests, ∀ rest,
    Gives (coming (g :: rest)) (hv.lookup (heard g).id) (heard g).domain (asked g rest)
  leases : ∀ g ∈ guests, ∀ rest,
    Gives (asked g rest) (hv.leases (heard g).domain) (heard g).interfaces (coming rest)
  note : ∀ entry rest s, coming rest s → coming rest (hv.note entry s)

namespace Tells

variable {hv : Hypervisor σ} {heard : Guest → Guest} {guests : List Guest} {start : σ → Prop}
    {coming : List Guest → σ → Prop} {asked : Guest → List Guest → σ → Prop}

theorem visit (h : Tells hv heard guests start coming asked) (user : String)
    (inventory : Inventory) (g : Guest) (hg : g ∈ guests) (rest : List Guest) :
    Gives (coming (g :: rest)) (visit hv user inventory (heard g).id)
      (enter user inventory (heard g)) (coming rest) := by
  refine (h.lookup g hg rest).bind ((h.leases g hg rest).bind ?_)
  cases hgroup : Group.ofHosts? (ipv4Hosts (heard g).interfaces) user with
  | some group =>
    simp only [enter, hgroup]
    exact Gives.bind (.modify (h.note _ rest)) (.pure fun s hs => hs)
  | none =>
    simp only [enter, hgroup]
    exact Gives.bind (.modify (h.note _ rest)) (.pure fun s hs => hs)

/-- By induction on the guests to come: each visit enters one and leaves the others to come. -/
theorem visitAll (h : Tells hv heard guests start coming asked) (user : String)
    (inventory : Inventory) (rest : List Guest) (hrest : ∀ g ∈ rest, g ∈ guests) :
    Gives (coming rest) (visitAll hv user inventory ((rest.map heard).map Guest.id))
      ((rest.map heard).foldl (enter user) inventory) (coming []) := by
  induction rest generalizing inventory with
  | nil => exact .pure fun s hs => hs
  | cons g rest ih =>
    obtain ⟨hg, hrest⟩ := List.forall_mem_cons.mp hrest
    exact (h.visit user inventory g hg rest).bind (ih (enter user inventory (heard g)) hrest)

theorem collect (h : Tells hv heard guests start coming asked) (user : String) :
    Gives start (collect hv user) (tally user (guests.map heard)) (coming []) :=
  h.activeIds.bind (h.visitAll user .empty guests fun _ hg => hg)

/-- A run of a session that tells of guests comes to their tally. -/
theorem result (h : Tells hv heard guests start coming asked) (connector : Connector φ σ)
    (hsession : connector.session = hv) {s : σ} (hconnect : connector.connect = .ok s)
    (hs : start s) (user : String) :
    (generate connector user).result = .ok (tally user (guests.map heard)) := by
  obtain ⟨s', hcollect, -⟩ := h.collect user s hs
  simp only [generate, hconnect, hsession, ending, hcollect]

end Tells

def inMemory : Hypervisor (List Guest × Log.Journal) where
  activeIds := fun s => .ok (s.1.map Guest.id) s
  lookup id := fun s =>
    match s.1 with
    | g :: _ => if g.id = id then .ok g.domain s else .error (Roster.notFound id) s
    | [] => .error (Roster.notFound id) s
  leases domain := fun s =>
    match s.1 with
    | g :: rest => if g.domain = domain then .ok g.interfaces (rest, s.2) else .ok [] s
    | [] => .ok [] s
  close := fun s => .ok () s
  note entry := fun s => (s.1, s.2.push entry)

def memoryConnector (guests : List Guest) (uri : String) :
    Connector Log.Journal (List Guest × Log.Journal) where
  uri := uri
  connect := .ok (guests, #[])
  session := inMemory
  noteFailure entry journal := journal.push entry

/-- In memory, a guest is gone once its leases have been asked for. -/
theorem tells_inMemory (guests : List Guest) :
    Tells inMemory id guests (fun s => s.1 = guests) (fun rest s => s.1 = rest)
      (fun g rest s => s.1 = g :: rest) where
  activeIds := by
    rintro s rfl
    exact ⟨s, by simp [inMemory], rfl⟩
  lookup g hg rest := by
    intro s hs
    exact ⟨s, by simp [inMemory, hs], hs⟩
  leases g hg rest := by
    intro s hs
    exact ⟨(rest, s.2), by simp [inMemory, hs], rfl⟩
  note entry rest s hs := hs

/-- In memory, a run comes to the tally of its guests. -/
theorem memory_result (guests : List Guest) (uri user : String) :
    (generate (memoryConnector guests uri) user).result = .ok (tally user guests) := by
  have h := (tells_inMemory guests).result (memoryConnector guests uri) rfl rfl (by rfl) user
  rwa [List.map_id] at h

theorem gives_overWire {before after : Connection → Prop} {x : Dialogue α} {a : α}
    (hx : Gives before x a after) : Gives before (overWire x) a after := by
  refine hx.of_ok ?_
  intro c c' h
  simp only [overWire, h]

/-- What a daemon tells that answers every call of a run: within the limits of the protocol, and
with any events in between. -/
structure Recital where
  schemes : List AuthScheme
  greeting : Bytes
  count : Int32
  guests : List Guest
  farewell : Bytes
  /-- The events before the reply with a serial. -/
  events : UInt32 → List Packet
  free : schemes = [] ∨ .none ∈ schemes
  schemes_le : schemes.length ≤ schemeMaximum
  /-- Without domains there is nothing to list; otherwise the number may be anything. -/
  counted : 0 < count ∨ guests = []
  guests_le : guests.length ≤ domainMaximum
  interfaces_le : ∀ g ∈ guests, g.interfaces.length ≤ interfaceMaximum
  addresses_le : ∀ g ∈ guests, ∀ i ∈ g.interfaces, i.addresses.length ≤ addressMaximum
  isEvent : ∀ n, ∀ e ∈ events n, e.IsEvent

def Guest.told (g : Guest) : List Told := [.domain g.id g.domain, .interfaces g.domain g.interfaces]

namespace Recital

/-- The question for the ids is left out when there are no domains. -/
def listing (r : Recital) : List Told :=
  if 0 < r.count then [.ids r.count (r.guests.map Guest.id)] else []

def script (r : Recital) (uri : String) : List Told :=
  .schemes r.schemes :: .opened uri r.greeting :: .count r.count ::
    (r.listing ++ (r.guests.flatMap Guest.told ++ [.closed r.farewell]))

theorem mem_script (r : Recital) (uri : String) (g : Guest) (hg : g ∈ r.guests) (t : Told)
    (ht : t ∈ g.told) : t ∈ r.script uri := by
  have hguests : t ∈ r.guests.flatMap Guest.told := List.mem_flatMap.mpr ⟨g, hg, ht⟩
  simp only [script, List.mem_cons, List.mem_append]
  exact Or.inr (Or.inr (Or.inr (Or.inr (Or.inl hguests))))

def remainder (r : Recital) (rest : List Guest) : List Told :=
  rest.flatMap Guest.told ++ [.closed r.farewell]

variable (r : Recital) (uri : String) (htravels : ∀ t ∈ r.script uri, t.Travels)
    (total : Array Bytes)
include htravels

theorem gives_activeIds :
    Gives (Facing r.events total (.count r.count :: (r.listing ++ r.remainder r.guests)))
      Session.domainIds (r.guests.map Guest.id)
      (Facing r.events total (r.remainder r.guests)) := by
  have hcount : (Told.count r.count).Travels := htravels _ (by simp [script])
  by_cases hn : 0 < r.count
  · have hlisting : r.listing = [.ids r.count (r.guests.map Guest.id)] := if_pos hn
    have hids : (Told.ids r.count (r.guests.map Guest.id)).Travels :=
      htravels _ (by simp [script, hlisting])
    rw [hlisting]
    exact Session.gives_domainIds r.isEvent hcount hn hids (by simpa using r.guests_le)
  · have hlisting : r.listing = [] := if_neg hn
    have hguests : r.guests = [] := r.counted.resolve_left hn
    rw [hlisting, hguests]
    exact Session.gives_domainIds_idle r.isEvent hcount (Int32.not_lt.mp hn)

/-- Over the socket, the guests are heard as they come off the wire. -/
theorem tells_wire :
    Tells wire Guest.settled r.guests
      (Facing r.events total (.count r.count :: (r.listing ++ r.remainder r.guests)))
      (fun rest => Facing r.events total (r.remainder rest))
      (fun g rest => Facing r.events total
        (.interfaces g.domain g.interfaces :: r.remainder rest)) where
  activeIds := by
    have hids : (r.guests.map Guest.settled).map Guest.id = r.guests.map Guest.id := by
      simp [Guest.settled]
    rw [hids]
    exact gives_overWire (r.gives_activeIds uri htravels total)
  lookup g hg rest := by
    have ht := htravels _ (r.mem_script uri g hg (.domain g.id g.domain) List.mem_cons_self)
    exact gives_overWire (Session.gives_lookup r.isEvent ht)
  leases g hg rest := by
    have ht := htravels _ (r.mem_script uri g hg (.interfaces g.domain g.interfaces)
      (List.mem_cons_of_mem _ List.mem_cons_self))
    exact gives_overWire (Session.gives_interfaces r.isEvent ht (r.interfaces_le g hg)
      (r.addresses_le g hg))
  note entry rest s hs := hs.of_line rfl

theorem gives_start :
    Gives (Facing r.events total (r.script uri)) (Session.start uri) ()
      (Facing r.events total (.count r.count :: (r.listing ++ r.remainder r.guests))) :=
  Session.gives_start r.isEvent (htravels _ (by simp [script])) r.schemes_le r.free
    (htravels _ (by simp [script]))

theorem gives_finish :
    Gives (Facing r.events total (r.remainder [])) Session.finish () fun c =>
      c.socket.unread = [] ∧ c.socket.sent = total ∧ c.socket.writeShut = true :=
  Session.gives_finish r.isEvent (htravels _ (by simp [script]))

end Recital

/-- Over the socket of a daemon that plays `r`, a survey comes to what a survey of the same guests
in memory comes to. All that the daemon wrote has been read then, and the frames sent are the
questions of the script, in order. -/
theorem wire_refines_memory (r : Recital) (host : Host) (uri user : String) (endpoint : Endpoint)
    (hendpoint : Endpoint.ofUri? uri = some endpoint)
    (hsocket : host.reach (host.socketPath endpoint) =
      .ok { unread := stream r.events 1 (r.script uri) })
    (htravels : ∀ t ∈ r.script uri, t.Travels) :
    (generate (wireConnector host uri) user).result =
        (generate (memoryConnector (r.guests.map Guest.settled) uri) user).result ∧
      (generate (wireConnector host uri) user).result =
        .ok (tally user (r.guests.map Guest.settled)) ∧
      ∃ c, (generate (wireConnector host uri) user).left = .inr c ∧ c.socket.unread = [] ∧
        c.socket.sent = (questions 1 (r.script uri)).toArray ∧ c.socket.writeShut = true ∧
        CalledInTurn 1 ((r.script uri).map fun t => (t.procedure, t.asked))
          (questions 1 (r.script uri)) := by
  have hstarts : Facing r.events (questions 1 (r.script uri)).toArray (r.script uri)
      { socket := { unread := stream r.events 1 (r.script uri) } } :=
    ⟨⟨rfl, rfl⟩, rfl, Array.empty_append⟩
  obtain ⟨c, hstart, hc⟩ := r.gives_start uri htravels _ _ hstarts
  obtain ⟨c', hcollect, hc'⟩ := (r.tells_wire uri htravels _).collect user c hc
  obtain ⟨c'', hfinish, hc''⟩ := gives_overWire (r.gives_finish uri htravels _) c' hc'
  have hconnect : (wireConnector host uri).connect = .ok c := by
    simp only [wireConnector, Session.connect, hendpoint, hsocket, hstart]
  have hclose : closeQuietly wire c' = c'' := by
    simp only [closeQuietly, wire, hfinish]
  have hrun : generate (wireConnector host uri) user =
      ⟨.ok (tally user (r.guests.map Guest.settled)), .inr c''⟩ := by
    have hsession : (wireConnector host uri).session = wire := rfl
    simp only [generate, hconnect, hsession, ending, hcollect, hclose]
  rw [hrun, memory_result]
  obtain ⟨hread, hsent, hshut⟩ := hc''
  exact ⟨rfl, rfl, c'', rfl, hread, hsent, hshut, calledInTurn_questions 1 _ htravels⟩

def duo : Recital where
  schemes := [.sasl, .none]
  greeting := []
  count := 2
  guests := [
    { id := 7
      domain := { name := "web", uuid := Uuid.zero, id := 7 }
      interfaces := [
        { name := "vnet0"
          hardware := some "52:54:00:00:00:07"
          addresses := [⟨.ipv6, "fe80::7", 64⟩, ⟨.ipv4, "10.0.0.7", 24⟩] }] },
    { id := 9, domain := { name := "db", uuid := Uuid.zero, id := 9 }, interfaces := [] }]
  farewell := []
  events := fun _ => [{ Packet.call 107 0 [0, 0, 0, 1] with kind := .message }]
  free := by decide
  schemes_le := by decide
  counted := by decide
  guests_le := by decide
  interfaces_le := by decide
  addresses_le := by decide
  isEvent := by
    intro n e he
    obtain rfl := List.mem_singleton.mp he
    exact ⟨⟨rfl, by decide⟩, rfl⟩

theorem duo_travels : ∀ t ∈ duo.script "/s", t.Travels := by
  have hsizes : ∀ t ∈ duo.script "/s",
      28 + t.asked.length ≤ packetMaximum ∧ 28 + t.answered.length ≤ packetMaximum := by
    decide
  exact fun t ht => ⟨(hsizes t ht).1, (hsizes t ht).2⟩

/-- Of the two guests only one has an IPv4 lease, and the events are passed over. -/
theorem wire_refines_memory_duo :
    let host : Host := { sockets := [("/s", stream duo.events 1 (duo.script "/s"))] }
    Endpoint.ofUri? "/s" = some (.path "/s") ∧
      host.reach "/s" = .ok { unread := stream duo.events 1 (duo.script "/s") } ∧
      (∀ t ∈ duo.script "/s", t.Travels) ∧
      (generate (wireConnector host "/s") "root").result =
        .ok ⟨[("web", { hosts := ["10.0.0.7"], address := "10.0.0.7", user := "root" })]⟩ := by
  intro host
  have hendpoint : Endpoint.ofUri? "/s" = some (.path "/s") := by decide
  have hsocket := Host.reach_single (stream duo.events 1 (duo.script "/s"))
  have hrun := (wire_refines_memory duo host "/s" "root" (.path "/s") hendpoint hsocket
    duo_travels).2.1
  have htally : tally "root" (duo.guests.map Guest.settled) =
      ⟨[("web", { hosts := ["10.0.0.7"], address := "10.0.0.7", user := "root" })]⟩ := by
    decide
  rw [htally] at hrun
  exact ⟨hendpoint, hsocket, duo_travels, hrun⟩

end GuestInventory.Survey
