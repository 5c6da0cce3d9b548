import GuestInventory.Proofs.Exchanges
import GuestInventory.Proofs.Gate
import GuestInventory.Proofs.Taking

/-!
The talks that the steps of a session hold, whatever the daemon writes. Each step has the
exchanges that it succeeds with and those that it fails with; a step that fails ends with the
exchange it failed on. Only the way in may come to nothing without a failure, when the daemon asks
for more than polkit. What the later answers say is first spelled out in bytes.
-/
namespace GuestInventory.Remote

open Xdr

/-- The bytes that a number of domains is read from. -/
def DomainCount.Spells (n : DomainCount) (lead : Bytes) : Prop :=
  lead = Bytes.ofWord n.count.toUInt32

theorem DomainCount.takes : Takes DomainCount.read Spells := by
  refine Takes.int32.map_eq DomainCount.mk DomainCount.count fun a n => ?_
  constructor
  · rintro rfl
    rfl
  · rintro rfl
    rfl

def DomainIds.Spells (l : DomainIds) (lead : Bytes) : Prop :=
  l.ids.length ≤ 16384 ∧ lead = Bytes.ofWord (UInt32.ofNat l.ids.length) ++
    l.ids.flatMap fun id => Bytes.ofWord id.toUInt32

theorem DomainIds.takes : Takes DomainIds.read Spells := by
  refine ((Takes.int32.boundedArray domainMaximum).map DomainIds.mk).congr ?_
  intro l lead
  constructor
  · rintro ⟨ids, ⟨hlength, -, y, rfl, heach⟩, rfl⟩
    exact ⟨hlength, by rw [each_eq_iff.mp heach]⟩
  · rintro ⟨hlength, rfl⟩
    exact ⟨l.ids, ⟨hlength, Nat.lt_of_le_of_lt hlength (by decide), _, rfl, each_eq_iff.mpr rfl⟩,
      rfl⟩

def FoundDomain.Spells (f : FoundDomain) (lead : Bytes) : Prop :=
  (utf8 f.domain.name).length ≤ 4194304 ∧
    ∃ pad : Bytes, pad.length = (Bytes.padding (utf8 f.domain.name).length).length ∧
      lead = Bytes.ofWord (UInt32.ofNat (utf8 f.domain.name).length) ++
        (utf8 f.domain.name ++ pad) ++
          (f.domain.uuid.bytes ++ Bytes.ofWord f.domain.id.toUInt32)

theorem FoundDomain.takes : Takes FoundDomain.read Spells := by
  have hdomain := Takes.string.bind fun name => Takes.uuid.bind fun uuid =>
    Takes.int32.map fun id => ({ name, uuid, id } : Domain)
  refine (hdomain.map FoundDomain.mk).congr ?_
  intro f lead
  constructor
  · rintro ⟨_, ⟨name, _, _, rfl, ⟨hlength, pad, hpad, rfl⟩, uuid, _, _, rfl, rfl, id, rfl, rfl⟩,
      rfl⟩
    exact ⟨hlength, pad, hpad, rfl⟩
  · rintro ⟨hlength, pad, hpad, rfl⟩
    exact ⟨f.domain, ⟨_, _, _, rfl, ⟨hlength, pad, hpad, rfl⟩, _, _, _, rfl, rfl, _, rfl, rfl⟩, rfl⟩

namespace Session

inductive Admitted : List Exchange → Prop
  | free {x : Exchange} {l : SchemeList}
      (hx : x.Answered .authList .void SchemeList.read l) (hl : l.Free) : Admitted [x]
  | polkit {x y : Exchange} {l : SchemeList} {o : PolkitOutcome}
      (hx : x.Answered .authList .void SchemeList.read l) (hl : ¬ l.Free)
      (hpolkit : .polkit ∈ l.schemes)
      (hy : y.Answered .authPolkit .void PolkitOutcome.read o) (ho : o.complete ≠ 0) :
      Admitted [x, y]

inductive TurnedAway : List Exchange → Prop
  | unlisted {x : Exchange} (hx : x.Unanswered .authList .void SchemeList.read) : TurnedAway [x]
  | noScheme {x : Exchange} {l : SchemeList}
      (hx : x.Answered .authList .void SchemeList.read l) (hl : ¬ l.Free)
      (hpolkit : .polkit ∉ l.schemes) : TurnedAway [x]
  | unanswered {x y : Exchange} {l : SchemeList}
      (hx : x.Answered .authList .void SchemeList.read l) (hl : ¬ l.Free)
      (hpolkit : .polkit ∈ l.schemes) (hy : y.Unanswered .authPolkit .void PolkitOutcome.read) :
      TurnedAway [x, y]
  | incomplete {x y : Exchange} {l : SchemeList} {o : PolkitOutcome}
      (hx : x.Answered .authList .void SchemeList.read l) (hl : ¬ l.Free)
      (hpolkit : .polkit ∈ l.schemes)
      (hy : y.Answered .authPolkit .void PolkitOutcome.read o) (ho : o.complete = 0) :
      TurnedAway [x, y]

inductive Opened (uri : String) : List Exchange → Prop
  | intro {talk : List Exchange} {x : Exchange} (htalk : Admitted talk)
      (hx : x.Answered .connectOpen (opening uri).datum (pure ()) ()) : Opened uri (talk ++ [x])

inductive Unopened (uri : String) : List Exchange → Prop
  | turnedAway {talk : List Exchange} (htalk : TurnedAway talk) : Unopened uri talk
  | refused {talk : List Exchange} {x : Exchange} (htalk : Admitted talk)
      (hx : x.Unanswered .connectOpen (opening uri).datum (pure () : Reader Unit)) :
      Unopened uri (talk ++ [x])

/-- Exchanges that tell the ids of the running domains. Of no domains no ids are asked. -/
inductive Listed : List Int32 → List Exchange → Prop
  | idle {x : Exchange} {n : DomainCount}
      (hx : x.Answered .connectNumOfDomains .void DomainCount.read n) (hn : n.count ≤ 0) :
      Listed [] [x]
  | listed {x y : Exchange} {n : DomainCount} {l : DomainIds}
      (hx : x.Answered .connectNumOfDomains .void DomainCount.read n) (hn : 0 < n.count)
      (hy : y.Answered .connectListDomains (listing n.count).datum DomainIds.read l) :
      Listed l.ids [x, y]

inductive Unlisted : List Exchange → Prop
  | uncounted {x : Exchange} (hx : x.Unanswered .connectNumOfDomains .void DomainCount.read) :
      Unlisted [x]
  | unanswered {x y : Exchange} {n : DomainCount}
      (hx : x.Answered .connectNumOfDomains .void DomainCount.read n) (hn : 0 < n.count)
      (hy : y.Unanswered .connectListDomains (listing n.count).datum DomainIds.read) :
      Unlisted [x, y]

theorem Admitted.closeFree {talk : List Exchange} (h : Admitted talk) : CloseFree talk := by
  cases h with
  | free hx hl => exact hx.closeFree nofun
  | polkit hx hl hpolkit hy ho => exact (hx.closeFree nofun).append (hy.closeFree nofun)

theorem TurnedAway.closeFree {talk : List Exchange} (h : TurnedAway talk) : CloseFree talk := by
  cases h with
  | unlisted hx => exact hx.closeFree nofun
  | noScheme hx hl hpolkit => exact hx.closeFree nofun
  | unanswered hx hl hpolkit hy => exact (hx.closeFree nofun).append (hy.closeFree nofun)
  | incomplete hx hl hpolkit hy ho => exact (hx.closeFree nofun).append (hy.closeFree nofun)

theorem Opened.closeFree {uri : String} {talk : List Exchange} (h : Opened uri talk) :
    CloseFree talk := by
  cases h with
  | intro htalk hx => exact htalk.closeFree.append (hx.closeFree nofun)

theorem Unopened.closeFree {uri : String} {talk : List Exchange} (h : Unopened uri talk) :
    CloseFree talk := by
  cases h with
  | turnedAway htalk => exact htalk.closeFree
  | refused htalk hx => exact htalk.closeFree.append (hx.closeFree nofun)

theorem Listed.closeFree {ids : List Int32} {talk : List Exchange} (h : Listed ids talk) :
    CloseFree talk := by
  cases h with
  | idle hx hn => exact hx.closeFree nofun
  | listed hx hn hy => exact (hx.closeFree nofun).append (hy.closeFree nofun)

theorem Unlisted.closeFree {talk : List Exchange} (h : Unlisted talk) : CloseFree talk := by
  cases h with
  | uncounted hx => exact hx.closeFree nofun
  | unanswered hx hn hy => exact (hx.closeFree nofun).append (hy.closeFree nofun)

/-- The answers that let the caller in are a talk, held from the line before to the line after. -/
theorem LetIn.admitted {before : List Bytes} {c c' : Connection} (h : LetIn c before c') :
    ∃ talk, Held c.line talk c'.line ∧ Admitted talk := by
  have hfirst := Talks.request .authList SchemeList.read Datum.plain_void
  have hsecond := Talks.request .authPolkit PolkitOutcome.read Datum.plain_void
  cases h with
  | free hlist hl =>
    obtain ⟨_, hheld, ⟨hx⟩⟩ := hfirst.of_ok _ _ _ hlist
    exact ⟨_, hheld, .free hx hl⟩
  | polkit hlist hl hpolkit houtcome ho =>
    obtain ⟨_, hheld, ⟨hx⟩⟩ := hfirst.of_ok _ _ _ hlist
    obtain ⟨_, hmore, ⟨hy⟩⟩ := hsecond.of_ok _ _ _ houtcome
    exact ⟨_, hheld.append hmore, .polkit hx hl hpolkit hy ho⟩

/-- The same of the failures that keep the caller out. -/
theorem KeptOut.turnedAway {e : Error} {c c' : Connection} (h : KeptOut c e c') :
    ∃ talk, Held c.line talk c'.line ∧ TurnedAway talk := by
  have hfirst := Talks.request .authList SchemeList.read Datum.plain_void
  have hsecond := Talks.request .authPolkit PolkitOutcome.read Datum.plain_void
  cases h with
  | unlisted hlist =>
    obtain ⟨_, hheld, ⟨hx⟩⟩ := hfirst.of_error _ _ _ hlist
    exact ⟨_, hheld, .unlisted hx⟩
  | noScheme hlist hl hpolkit =>
    obtain ⟨_, hheld, ⟨hx⟩⟩ := hfirst.of_ok _ _ _ hlist
    exact ⟨_, hheld, .noScheme hx hl hpolkit⟩
  | unanswered hlist hl hpolkit houtcome =>
    obtain ⟨_, hheld, ⟨hx⟩⟩ := hfirst.of_ok _ _ _ hlist
    obtain ⟨_, hmore, ⟨hy⟩⟩ := hsecond.of_error _ _ _ houtcome
    exact ⟨_, hheld.append hmore, .unanswered hx hl hpolkit hy⟩
  | incomplete hlist hl hpolkit houtcome ho =>
    obtain ⟨_, hheld, ⟨hx⟩⟩ := hfirst.of_ok _ _ _ hlist
    obtain ⟨_, hmore, ⟨hy⟩⟩ := hsecond.of_ok _ _ _ houtcome
    exact ⟨_, hheld.append hmore, .incomplete hx hl hpolkit hy ho⟩

/-- The ways through the gate are the ways in and the ways to be turned away. -/
theorem talks_authenticate : Talks authenticate (fun _ => Admitted) TurnedAway where
  of_ok c u c' hok := by
    rcases letIn_or_keptOut c with ⟨before, d, hin⟩ | ⟨e, d, hout⟩
    · rw [hin.authenticate_eq] at hok
      cases hok
      exact hin.admitted
    · rw [hout.authenticate_eq] at hok
      cases hok
  of_error c e c' herror := by
    rcases letIn_or_keptOut c with ⟨before, d, hin⟩ | ⟨e', d, hout⟩
    · rw [hin.authenticate_eq] at herror
      cases herror
    · rw [hout.authenticate_eq] at herror
      cases herror
      exact hout.turnedAway

/-- A session is opened behind the gate, and a refusal there is the last that is said. -/
theorem talks_start (uri : String) :
    Talks (start uri) (fun _ => Opened uri) (Unopened uri) := by
  have hopen := Talks.request .connectOpen (pure () : Reader Unit) (opening uri).plain
  refine talks_authenticate.bind (fun _ => .turnedAway) ?_
  intro _ before hbefore
  refine (hopen.blaming .openRefused).bind ?_ ?_
  · intro talk htalk
    obtain ⟨hx⟩ := htalk
    exact .refused hbefore hx
  · intro _ talk htalk
    obtain ⟨hx⟩ := htalk
    exact .note_bind (fun c => rfl) (.pure (.intro hbefore hx))

theorem talks_domainCount :
    Talks domainCount
      (fun count => Exchange.JustAnswered .connectNumOfDomains .void DomainCount.read ⟨count⟩)
      (Exchange.JustUnanswered .connectNumOfDomains .void DomainCount.read) := by
  refine (Talks.request .connectNumOfDomains DomainCount.read Datum.plain_void).bind
    (fun _ h => h) ?_
  intro n talk htalk
  obtain ⟨hx⟩ := htalk
  exact .pure (.intro hx)

/-- The ids are asked for only if there are any. -/
theorem talks_domainIds : Talks domainIds Listed Unlisted := by
  refine talks_domainCount.bind ?_ ?_
  · intro talk htalk
    obtain ⟨hx⟩ := htalk
    exact .uncounted hx
  intro count talk htalk
  obtain ⟨hx⟩ := htalk
  by_cases hidle : count ≤ 0
  · rw [if_pos hidle]
    exact .pure (.idle hx hidle)
  have hcount : 0 < count := Int32.not_le.mp hidle
  rw [if_neg hidle]
  refine (Talks.request .connectListDomains DomainIds.read (listing count).plain).bind ?_ ?_
  · intro talk htalk
    obtain ⟨hy⟩ := htalk
    exact .unanswered hx hcount hy
  · intro l talk htalk
    obtain ⟨hy⟩ := htalk
    exact .pure (.listed hx hcount hy)

theorem talks_lookup (id : Int32) :
    Talks (lookup id)
      (fun domain => Exchange.JustAnswered .domainLookupById (LookupArgs.datum ⟨id⟩)
        FoundDomain.read ⟨domain⟩)
      (Exchange.JustUnanswered .domainLookupById (LookupArgs.datum ⟨id⟩) FoundDomain.read) := by
  refine (Talks.request .domainLookupById FoundDomain.read (LookupArgs.plain ⟨id⟩)).bind
    (fun _ h => h) ?_
  intro f talk htalk
  obtain ⟨hx⟩ := htalk
  exact .pure (.intro hx)

theorem talks_interfaces (domain : Domain) (source : AddressSource) :
    Talks (interfaces domain source)
      (fun found => Exchange.JustAnswered .domainInterfaceAddresses
        (AddressesArgs.datum ⟨domain, source, 0⟩) InterfaceList.read ⟨found⟩)
      (Exchange.JustUnanswered .domainInterfaceAddresses
        (AddressesArgs.datum ⟨domain, source, 0⟩) InterfaceList.read) := by
  refine (Talks.request .domainInterfaceAddresses InterfaceList.read
    (AddressesArgs.plain ⟨domain, source, 0⟩)).bind (fun _ h => h) ?_
  intro l talk htalk
  obtain ⟨hx⟩ := htalk
  exact .pure (.intro hx)

end Session

end GuestInventory.Remote
