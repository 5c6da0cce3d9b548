import GuestInventory.Proofs.Tally

/-!
One pass over the running domains of any hypervisor: which calls it makes, in which order, and what
comes of it. The domains are listed once and then visited one after another, each by a lookup and
by a question for the leases of what was found. The first call that fails is the last one made.
-/
namespace GuestInventory.Survey

open Remote (Domain)

variable {σ : Type}

namespace Guest

def calls (g : Guest) : List Call := [.lookup g.id, .leases g.domain]

def event (g : Guest) : Log.Event :=
  if g.hosts = [] then .noLease g.domain.name g.id
  else .addingGroup g.domain.name g.domain.uuid g.id g.hosts

end Guest

inductive Visits (hv : Hypervisor σ) : List Guest → σ → σ → Prop
  | nil (s : σ) : Visits hv [] s s
  | cons {g : Guest} {rest : List Guest} {s found asked last : σ}
      (hlookup : hv.lookup g.id s = .ok g.domain found)
      (hleases : hv.leases g.domain found = .ok g.interfaces asked)
      (hrest : Visits hv rest (hv.note (.event g.event) asked) last) :
      Visits hv (g :: rest) s last

/-- A visit that fails, with the calls made up to the one that failed. -/
inductive Fails (hv : Hypervisor σ) (id : Int32) (s : σ) : List Call → Error → σ → Prop
  | lookup {e : Error} {last : σ} (hlookup : hv.lookup id s = .error e last) :
      Fails hv id s [.lookup id] e last
  | leases {domain : Domain} {e : Error} {found last : σ}
      (hlookup : hv.lookup id s = .ok domain found)
      (hleases : hv.leases domain found = .error e last) :
      Fails hv id s [.lookup id, .leases domain] e last

/-- A whole pass from `s`: the calls made, the guests visited or the error that ended it, and the
state it ends in. -/
inductive Pass (hv : Hypervisor σ) (s : σ) : List Call → Except Error (List Guest) → σ → Prop
  | unlisted {e : Error} {last : σ} (hids : hv.activeIds s = .error e last) :
      Pass hv s [.activeIds] (.error e) last
  | brokenOff {guests : List Guest} {id : Int32} {rest : List Int32} {made : List Call}
      {e : Error} {listed between last : σ}
      (hids : hv.activeIds s = .ok (guests.map Guest.id ++ id :: rest) listed)
      (hvisits : Visits hv guests listed between) (hfails : Fails hv id between made e last) :
      Pass hv s (.activeIds :: (guests.flatMap Guest.calls ++ made)) (.error e) last
  | complete {guests : List Guest} {listed last : σ}
      (hids : hv.activeIds s = .ok (guests.map Guest.id) listed)
      (hvisits : Visits hv guests listed last) :
      Pass hv s (.activeIds :: guests.flatMap Guest.calls) (.ok guests) last

/-- From `s`, `x` comes to `result` and leaves `last`. So does `recorded`, which also writes down
that the calls made are `made`. -/
structure Makes (x : EStateM Error σ α) (recorded : EStateM Error (σ × Array Call) α) (s : σ)
    (made : List Call) (result : Except Error α) (last : σ) : Prop where
  plain : ending x s = (result, last)
  recorded : ∀ calls, ending recorded (s, calls) = (result, (last, calls ++ made.toArray))

theorem ending_of_ok {x : EStateM Error σ α} {a : α} {s last : σ} (h : x s = .ok a last) :
    ending x s = (.ok a, last) := by
  simp only [ending, h]

theorem ending_of_error {x : EStateM Error σ α} {e : Error} {s last : σ}
    (h : x s = .error e last) : ending x s = (.error e, last) := by
  simp only [ending, h]

/-- The first failure ends a run, and the state it fails in is the last one. -/
theorem ending_bind (x : EStateM Error σ α) (f : α → EStateM Error σ β) (s : σ) :
    ending (x >>= f) s =
      match ending x s with
      | (.ok a, between) => ending (f a) between
      | (.error e, last) => (.error e, last) := by
  simp only [ending, Bind.bind, EStateM.bind]
  cases x s <;> rfl

namespace Makes

variable {x : EStateM Error σ α} {x' : EStateM Error (σ × Array Call) α}
    {f : α → EStateM Error σ β} {f' : α → EStateM Error (σ × Array Call) β} {a : α}
    {s between last : σ} {made more : List Call}

theorem pure (a : α) (s : σ) :
    Makes (Pure.pure a : EStateM Error σ α) (Pure.pure a) s [] (.ok a) s where
  plain := rfl
  recorded calls := by
    rw [Array.append_empty]
    rfl

theorem call (call : Call) {result : Except Error α} (h : ending x s = (result, last)) :
    Makes x (Hypervisor.recording call x) s [call] result last where
  plain := h
  recorded calls := by
    have hpush : calls ++ [call].toArray = calls.push call := by simp
    rw [hpush]
    cases hx : x s with
    | ok a _ =>
      rw [ending_of_ok hx] at h
      cases h
      simp only [ending, Hypervisor.recording, hx]
    | error e _ =>
      rw [ending_of_error hx] at h
      cases h
      simp only [ending, Hypervisor.recording, hx]

theorem note (hv : Hypervisor σ) (e : Log.Event) (s : σ) :
    Makes (noteInto hv e) (noteInto hv.traced e) s [] (.ok ()) (hv.note (.event e) s) where
  plain := rfl
  recorded calls := by
    rw [Array.append_empty]
    rfl

theorem bind_ok {result : Except Error β} (hx : Makes x x' s made (.ok a) between)
    (hf : Makes (f a) (f' a) between more result last) :
    Makes (x >>= f) (x' >>= f') s (made ++ more) result last where
  plain := by
    rw [ending_bind, hx.plain]
    exact hf.plain
  recorded calls := by
    have happend : calls ++ (made ++ more).toArray = calls ++ made.toArray ++ more.toArray := by
      simp
    rw [ending_bind, hx.recorded, happend]
    exact hf.recorded _

theorem bind_error {e : Error} (hx : Makes x x' s made (.error e) last) :
    Makes (x >>= f) (x' >>= f') s made (.error e) last where
  plain := by rw [ending_bind, hx.plain]
  recorded calls := by rw [ending_bind, hx.recorded]

end Makes

/-- A failed visit makes the calls up to the failure. -/
theorem Fails.makes {hv : Hypervisor σ} {id : Int32} {s last : σ} {made : List Call} {e : Error}
    (h : Fails hv id s made e last) (user : String) (inventory : Inventory) :
    Makes (visit hv user inventory id) (visit hv.traced user inventory id) s made (.error e)
      last := by
  cases h with
  | lookup hlookup => exact .bind_error (.call (.lookup id) (ending_of_error hlookup))
  | leases hlookup hleases =>
    have hfound := Makes.call (.lookup id) (ending_of_ok hlookup)
    exact hfound.bind_ok (.bind_error (.call (.leases _) (ending_of_error hleases)))

/-- A visit looks a guest up, asks for its leases, and enters it. -/
theorem makes_visit {hv : Hypervisor σ} {g : Guest} {s found asked : σ} (user : String)
    (inventory : Inventory) (hlookup : hv.lookup g.id s = .ok g.domain found)
    (hleases : hv.leases g.domain found = .ok g.interfaces asked) :
    Makes (visit hv user inventory g.id) (visit hv.traced user inventory g.id) s g.calls
      (.ok (enter user inventory g)) (hv.note (.event g.event) asked) := by
  have hfound := Makes.call (.lookup g.id) (ending_of_ok hlookup)
  have hasked := Makes.call (.leases g.domain) (ending_of_ok hleases)
  refine hfound.bind_ok (hasked.bind_ok ?_)
  have hhosts : ipv4Hosts g.interfaces = g.hosts := ipv4Hosts_eq g.interfaces
  simp only [enter, hhosts]
  cases hgroup : Group.ofHosts? g.hosts user with
  | none =>
    have hevent : g.event = .noLease g.domain.name g.id :=
      if_pos (Group.ofHosts?_eq_none_iff.mp hgroup)
    rw [hevent]
    exact (Makes.note hv _ asked).bind_ok (.pure inventory _)
  | some group =>
    have hne : g.hosts ≠ [] := by
      intro hnone
      rw [Group.ofHosts?_eq_none_iff.mpr hnone] at hgroup
      cases hgroup
    have hevent : g.event = .addingGroup g.domain.name g.domain.uuid g.id group.hosts := by
      rw [Guest.event, if_neg hne, (Group.eq_of_ofHosts? hgroup).1]
    rw [hevent]
    exact (Makes.note hv _ asked).bind_ok (.pure _ _)

/-- By induction on the visits: what is made of the domains that are left is made after them. -/
theorem Visits.makes {hv : Hypervisor σ} {guests : List Guest} {s between last : σ}
    (h : Visits hv guests s between) (user : String) (inventory : Inventory) (rest : List Int32)
    {made : List Call} {result : Except Error Inventory}
    (hrest : Makes (visitAll hv user (guests.foldl (enter user) inventory) rest)
      (visitAll hv.traced user (guests.foldl (enter user) inventory) rest) between made result
      last) :
    Makes (visitAll hv user inventory (guests.map Guest.id ++ rest))
      (visitAll hv.traced user inventory (guests.map Guest.id ++ rest)) s
      (guests.flatMap Guest.calls ++ made) result last := by
  induction h generalizing inventory with
  | nil s => exact hrest
  | cons hlookup hleases _ ih =>
    rw [List.flatMap_cons, List.append_assoc]
    exact (makes_visit user inventory hlookup hleases).bind_ok (ih _ hrest)

/-- A pass comes to the tally of the guests visited, or to the error that ended it. -/
theorem Pass.makes {hv : Hypervisor σ} {s last : σ} {made : List Call}
    {outcome : Except Error (List Guest)} (h : Pass hv s made outcome last) (user : String) :
    Makes (collect hv user) (collect hv.traced user) s made (outcome.map (tally user)) last := by
  cases h with
  | unlisted hids => exact .bind_error (.call .activeIds (ending_of_error hids))
  | brokenOff hids hvisits hfails =>
    have hlisted := Makes.call .activeIds (ending_of_ok hids)
    refine hlisted.bind_ok (hvisits.makes user .empty _ ?_)
    exact .bind_error (hfails.makes user _)
  | complete hids hvisits =>
    have hlisted := Makes.call .activeIds (ending_of_ok hids)
    have hvisited := hvisits.makes user .empty [] (.pure _ last)
    rw [List.append_nil, List.append_nil] at hvisited
    exact hlisted.bind_ok hvisited

/-- By induction on the ids: the visits go through, or break off at one of them. -/
theorem visits_or_fails (hv : Hypervisor σ) (ids : List Int32) (s : σ) :
    (∃ guests last, ids = guests.map Guest.id ∧ Visits hv guests s last) ∨
      ∃ guests id rest between made e last, ids = guests.map Guest.id ++ id :: rest ∧
        Visits hv guests s between ∧ Fails hv id between made e last := by
  induction ids generalizing s with
  | nil => exact Or.inl ⟨[], s, rfl, .nil s⟩
  | cons id ids ih =>
    cases hlookup : hv.lookup id s with
    | error e last =>
      exact Or.inr ⟨[], id, ids, s, _, e, last, rfl, .nil s, .lookup hlookup⟩
    | ok domain found =>
      cases hleases : hv.leases domain found with
      | error e last =>
        exact Or.inr ⟨[], id, ids, s, _, e, last, rfl, .nil s, .leases hlookup hleases⟩
      | ok interfaces asked =>
        let g : Guest := ⟨id, domain, interfaces⟩
        rcases ih (hv.note (.event g.event) asked) with ⟨guests, last, rfl, hvisits⟩ | hbroken
        · exact Or.inl ⟨g :: guests, last, rfl, .cons hlookup hleases hvisits⟩
        · obtain ⟨guests, id', rest, between, made, e, last, rfl, hvisits, hfails⟩ := hbroken
          exact Or.inr ⟨g :: guests, id', rest, between, made, e, last, rfl,
            .cons hlookup hleases hvisits, hfails⟩

/-- Every hypervisor gives a pass, whatever it answers. -/
theorem exists_pass (hv : Hypervisor σ) (s : σ) :
    ∃ made outcome last, Pass hv s made outcome last := by
  cases hids : hv.activeIds s with
  | error e last => exact ⟨_, _, last, .unlisted hids⟩
  | ok ids listed =>
    rcases visits_or_fails hv ids listed with ⟨guests, last, rfl, hvisits⟩ | hbroken
    · exact ⟨_, _, last, .complete hids hvisits⟩
    · obtain ⟨guests, id, rest, between, made, e, last, rfl, hvisits, hfails⟩ := hbroken
      exact ⟨_, _, last, .brokenOff hids hvisits hfails⟩

/-- Whatever the hypervisor answers, collecting goes through one pass: it makes the calls of the
pass, in order, and comes to its error and no inventory, or to the inventory of its guests. -/
theorem collect_exact (hv : Hypervisor σ) (user : String) (s : σ) :
    (∃ made e last, Pass hv s made (.error e) last ∧
      Makes (collect hv user) (collect hv.traced user) s made (.error e) last) ∨
    ∃ made guests last inventory, Pass hv s made (.ok guests) last ∧
      Makes (collect hv user) (collect hv.traced user) s made (.ok inventory) last ∧
      Lists user guests inventory := by
  obtain ⟨made, outcome, last, hpass⟩ := exists_pass hv s
  have hmakes := hpass.makes user
  cases outcome with
  | error e => exact Or.inl ⟨made, e, last, hpass, hmakes⟩
  | ok guests =>
    exact Or.inr ⟨made, guests, last, _, hpass, hmakes, lists_tally user guests⟩

end GuestInventory.Survey
