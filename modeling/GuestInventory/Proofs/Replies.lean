import GuestInventory.Proofs.Messages

/-!
The replies at their limits. Writing a reply knows no limits, and reading it knows a maximum for
every list and for every string. A reply that keeps within all of them is read back, but for tags
that have a name; any other is refused for the first part, in wire order, that does not.
-/
namespace GuestInventory.Remote

open Xdr (Conveys ConveysWithin Datum Part Reader)

theorem PolkitOutcome.conveys (o : PolkitOutcome) : Conveys o.datum read o :=
  .record ((Conveys.int32 o.complete).followed (.done o))

def ErrorReply.parts (e : ErrorReply) : List Part := e.message.toList.map .text

theorem ErrorReply.conveysWithin (e : ErrorReply) : ConveysWithin e.datum read e.parts e := by
  refine .record ?_
  rw [← List.append_nil e.parts]
  exact (ConveysWithin.of_conveys (.int32 e.code)).followed <|
    (ConveysWithin.of_conveys (.int32 e.domain)).followed <|
      (ConveysWithin.optional e.message).followed <|
        (ConveysWithin.of_conveys (.int32 e.level)).last rfl

inductive Reply
  | schemes (l : SchemeList)
  | polkit (o : PolkitOutcome)
  | count (c : DomainCount)
  | ids (l : DomainIds)
  | found (f : FoundDomain)
  | interfaces (l : InterfaceList)
  | failure (e : ErrorReply)

namespace Reply

inductive Form
  | schemes
  | polkit
  | count
  | ids
  | found
  | interfaces
  | failure

def form : Reply → Form
  | schemes _ => .schemes
  | polkit _ => .polkit
  | count _ => .count
  | ids _ => .ids
  | found _ => .found
  | interfaces _ => .interfaces
  | failure _ => .failure

def Form.read : Form → Reader Reply
  | schemes => return .schemes (← SchemeList.read)
  | polkit => return .polkit (← PolkitOutcome.read)
  | count => return .count (← DomainCount.read)
  | ids => return .ids (← DomainIds.read)
  | found => return .found (← FoundDomain.read)
  | interfaces => return .interfaces (← InterfaceList.read)
  | failure => return .failure (← ErrorReply.read)

def datum : Reply → Datum
  | schemes l => l.datum
  | polkit o => o.datum
  | count c => c.datum
  | ids l => l.datum
  | found f => f.datum
  | interfaces l => l.datum
  | failure e => e.datum

/-- What a reply is read as: tags with a name are read by it. -/
def settled : Reply → Reply
  | schemes l => schemes ⟨l.schemes.map AuthScheme.settled⟩
  | interfaces l => interfaces ⟨l.interfaces.map Interface.settled⟩
  | reply => reply

/-- The parts of a reply that reading limits, in wire order. -/
def parts : Reply → List Part
  | schemes l => l.parts
  | polkit _ => []
  | count _ => []
  | ids l => l.parts
  | found f => f.domain.parts
  | interfaces l => l.parts
  | failure e => e.parts

/-- Each reply is read by its own form, as far as its parts keep within their limits. -/
theorem conveysWithin (v : Reply) : ConveysWithin v.datum v.form.read v.parts v.settled := by
  cases v with
  | schemes l =>
    refine l.conveysWithin.bind_pure ?_
    rfl
  | polkit o =>
    refine (ConveysWithin.of_conveys o.conveys).bind_pure ?_
    rfl
  | count c =>
    refine (ConveysWithin.of_conveys c.conveys).bind_pure ?_
    rfl
  | ids l =>
    refine l.conveysWithin.bind_pure ?_
    rfl
  | found f =>
    refine f.conveysWithin.bind_pure ?_
    rfl
  | interfaces l =>
    refine l.conveysWithin.bind_pure ?_
    rfl
  | failure e =>
    refine e.conveysWithin.bind_pure ?_
    rfl

/-- A reply whose sizes can be written at all is read back exactly if every part keeps within its
limit, whatever follows it. Otherwise reading fails for the first part that does not; the text for
a list says the length it was given. -/
theorem read_within_limits (v : Reply) (hsized : ∀ p ∈ v.parts, p.Sized) :
    ∃ bytes, v.datum.encode = .ok bytes ∧ ∀ rest,
      ((∃ w left, v.form.read (bytes ++ rest) = .ok w left) ↔ ∀ p ∈ v.parts, p.Within) ∧
      (∀ w left, v.form.read (bytes ++ rest) = .ok w left → w = v.settled ∧ left = rest) ∧
      ∀ e left, v.form.read (bytes ++ rest) = .error e left → ∃ before p after,
        v.parts = before ++ p :: after ∧ (∀ q ∈ before, q.Within) ∧ ¬ p.Within ∧
          e = p.refusal ∧ ∀ length maximum, p = .count length maximum → e.message =
            s!"invalid length {length}, expected an array of at most {maximum} elements" := by
  obtain ⟨hplain, hreads, -⟩ := v.conveysWithin
  refine ⟨v.datum.wire, hplain.encode, fun rest => ?_⟩
  cases hfirst : Xdr.firstBeyond v.parts with
  | none =>
    have hwithin := Xdr.firstBeyond_eq_none_iff.mp hfirst
    have hread := hreads.within hwithin rest
    rw [hread]
    refine ⟨iff_of_true ⟨_, _, rfl⟩ hwithin, ?_, ?_⟩
    · rintro w left h
      cases h
      exact ⟨rfl, rfl⟩
    · rintro e left h
      cases h
  | some p =>
    obtain ⟨left, hread⟩ := hreads.beyond hsized p hfirst rest
    obtain ⟨before, after, hparts, hbefore, hp⟩ := Xdr.exists_split hfirst
    have hmem : p ∈ v.parts := by
      rw [hparts]
      exact List.mem_append_right _ List.mem_cons_self
    rw [hread]
    refine ⟨iff_of_false ?_ fun hwithin => hp (hwithin p hmem), ?_, ?_⟩
    · rintro ⟨w, left, h⟩
      cases h
    · rintro w left h
      cases h
    · rintro e left h
      cases h
      refine ⟨before, p, after, hparts, hbefore, hp, rfl, ?_⟩
      rintro length maximum rfl
      rfl

def crowded : Reply := .schemes ⟨List.replicate 21 .sasl⟩

def unnamed : Reply :=
  .interfaces ⟨[{ name := "vnet0", hardware := none, addresses := [⟨.other 0, "10.0.0.7", 24⟩] }]⟩

/-- The list is refused for its length; the tag that has a name is read by it. -/
theorem read_within_limits_crowded :
    (∀ p ∈ crowded.parts, p.Sized) ∧ (∀ p ∈ unnamed.parts, p.Sized) ∧
    (∃ bytes left, crowded.datum.encode = .ok bytes ∧
      crowded.form.read bytes = .error (.arrayTooLong 21 20) left) ∧
    ∃ bytes, unnamed.datum.encode = .ok bytes ∧ unnamed.form.read bytes = .ok (.interfaces
      ⟨[{ name := "vnet0", hardware := none, addresses := [⟨.ipv4, "10.0.0.7", 24⟩] }]⟩) [] := by
  have hcrowded : ∀ p ∈ crowded.parts, p.Sized := by decide
  have hunnamed : ∀ p ∈ unnamed.parts, p.Sized := by decide
  refine ⟨hcrowded, hunnamed, ?_, ?_⟩
  · obtain ⟨bytes, hencode, hread⟩ := read_within_limits crowded hcrowded
    have hbeyond : ¬ ∀ p ∈ crowded.parts, p.Within := by decide
    obtain ⟨hiff, -, herror⟩ := hread []
    rw [List.append_nil] at hiff herror
    cases hresult : crowded.form.read bytes with
    | ok w left => exact absurd (hiff.mp ⟨w, left, hresult⟩) hbeyond
    | error e left =>
      obtain ⟨before, p, after, hparts, -, -, rfl, -⟩ := herror e left hresult
      have hmem : p ∈ crowded.parts := by
        rw [hparts]
        exact List.mem_append_right _ List.mem_cons_self
      obtain rfl : p = .count 21 20 := List.mem_singleton.mp hmem
      exact ⟨bytes, left, hencode, hresult⟩
  · obtain ⟨bytes, hencode, hread⟩ := read_within_limits unnamed hunnamed
    have hwithin : ∀ p ∈ unnamed.parts, p.Within := by decide
    obtain ⟨hiff, hok, -⟩ := hread []
    obtain ⟨w, left, h⟩ := hiff.mpr hwithin
    obtain ⟨rfl, rfl⟩ := hok w left h
    rw [List.append_nil] at h
    exact ⟨bytes, hencode, h⟩

end Reply

end GuestInventory.Remote
