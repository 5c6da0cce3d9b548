import GuestInventory.Proofs.Alignment
import GuestInventory.Proofs.Codec

/-!
Receiving from any bytes, over and over. A receive cuts a piece off the front of the unread bytes,
and the bytes alone say where it cuts and what it answers. A body may be received into a buffer that
holds what earlier receives have left there: every byte that is answered is a byte of the stream.
Each receive that does not find the stream closed takes four bytes at least, so a stream is closed
after a quarter as many receives as it has bytes, and stays closed.
-/
namespace GuestInventory.Remote

def again (action : EStateM ε σ α) : Nat → σ → σ
  | 0, s => s
  | n + 1, s => again action n (stateAfter (action s))

def saidAfter (action : EStateM ε σ α) (n : Nat) (s : σ) : Except ε α :=
  said (action (again action n s))

theorem again_succ (action : EStateM ε σ α) (n : Nat) (s : σ) :
    again action (n + 1) s = stateAfter (action (again action n s)) := by
  induction n generalizing s with
  | zero => rfl
  | succ n ih => exact ih (stateAfter (action s))

theorem saidAfter_succ (action : EStateM ε σ α) (n : Nat) (s : σ) :
    saidAfter action (n + 1) s = saidAfter action n (stateAfter (action s)) := rfl

/-- A receive takes a piece off the front of the unread bytes, leaves the others and answers. Only
the bytes have a say in it. -/
inductive Cuts : (unread piece left : Bytes) → (answer : Except Error Bytes) → Prop
  | closed {short : Bytes} (hshort : short.length < 4) : Cuts short short [] (.error .closed)
  | tooLarge {size : UInt32} (rest : Bytes) (hsize : packetMaximum < size.toNat) :
      Cuts (Bytes.ofWord size ++ rest) (Bytes.ofWord size) rest
        (.error (.frameTooLarge size.toNat))
  | hollow {size : UInt32} (rest : Bytes) (hsize : size.toNat ≤ 4) :
      Cuts (Bytes.ofWord size ++ rest) (Bytes.ofWord size) rest (.ok [])
  | body {size : UInt32} {body : Bytes} (rest : Bytes) (hmaximum : size.toNat ≤ packetMaximum)
      (hbody : body ≠ []) (hsize : size.toNat = 4 + body.length) :
      Cuts (Bytes.ofWord size ++ (body ++ rest)) (Bytes.ofWord size ++ body) rest (.ok body)
  | brokenOff {size : UInt32} {short : Bytes} (hmaximum : size.toNat ≤ packetMaximum)
      (hshort : 4 + short.length < size.toNat) :
      Cuts (Bytes.ofWord size ++ short) (Bytes.ofWord size ++ short) []
        (.error (.stream .earlyEnd))

namespace Cuts

variable {unread piece left : Bytes} {answer : Except Error Bytes}

theorem append_eq (h : Cuts unread piece left answer) : unread = piece ++ left := by
  cases h with
  | closed hshort => rw [List.append_nil]
  | tooLarge => rfl
  | hollow => rfl
  | body => rw [List.append_assoc]
  | brokenOff => rw [List.append_nil]

/-- Only a stream that is closed is left without four bytes less. -/
theorem closed_or_shorter (h : Cuts unread piece left answer) :
    (answer = .error .closed ∧ unread.length < 4 ∧ left = []) ∨
      (answer ≠ .error .closed ∧ left.length + 4 ≤ unread.length) := by
  cases h with
  | closed hshort => exact Or.inl ⟨rfl, hshort, rfl⟩
  | tooLarge rest =>
    refine Or.inr ⟨nofun, ?_⟩
    rw [List.length_append, Bytes.length_ofWord]
    omega
  | hollow rest =>
    refine Or.inr ⟨nofun, ?_⟩
    rw [List.length_append, Bytes.length_ofWord]
    omega
  | body rest =>
    refine Or.inr ⟨nofun, ?_⟩
    rw [List.length_append, List.length_append, Bytes.length_ofWord]
    omega
  | @brokenOff _ short =>
    refine Or.inr ⟨nofun, ?_⟩
    rw [List.length_append, Bytes.length_ofWord, List.length_nil]
    omega

/-- Any bytes are cut somewhere. -/
theorem exists_cuts (unread : Bytes) : ∃ piece left answer, Cuts unread piece left answer := by
  by_cases hlength : unread.length < 4
  · exact ⟨_, _, _, .closed hlength⟩
  obtain ⟨size, rest, rfl⟩ : ∃ size rest, unread = Bytes.ofWord size ++ rest :=
    ⟨_, _, Xdr.eq_of_word_ok (Xdr.word_of_le (Nat.le_of_not_lt hlength))⟩
  by_cases hmaximum : packetMaximum < size.toNat
  · exact ⟨_, _, _, .tooLarge rest hmaximum⟩
  by_cases hhollow : size.toNat ≤ 4
  · exact ⟨_, _, _, .hollow rest hhollow⟩
  by_cases hshort : 4 + rest.length < size.toNat
  · exact ⟨_, _, _, .brokenOff (Nat.le_of_not_lt hmaximum) hshort⟩
  · have hbody : (rest.take (size.toNat - 4)).length = size.toNat - 4 := by
      rw [List.length_take]
      omega
    have hcut := @Cuts.body size (rest.take (size.toNat - 4)) (rest.drop (size.toNat - 4))
      (Nat.le_of_not_lt hmaximum) (List.ne_nil_of_length_pos (by omega)) (by omega)
    rw [List.take_append_drop] at hcut
    exact ⟨_, _, _, hcut⟩

end Cuts

namespace Socket

variable {s : Socket} {piece left : Bytes} {answer : Except Error Bytes}

theorem receive_short (hshort : s.unread.length < 4) : s.receive = s.runOut .closed := by
  rw [receive]
  split
  · rename_i hunread
    rw [hunread] at hshort
    simp only [List.length_cons] at hshort
    omega
  · rfl

theorem receive_sized {size : UInt32} {rest : Bytes}
    (hunread : s.unread = Bytes.ofWord size ++ rest) :
    s.receive =
      if packetMaximum < size.toNat then
        .error (.frameTooLarge size.toNat) { s with unread := rest }
      else if size.toNat - 4 ≤ rest.length then
        .ok (rest.take (size.toNat - 4)) { s with unread := rest.drop (size.toNat - 4) }
      else s.runOut (.stream .earlyEnd) := by
  have hthere : (rest.take (size.toNat - 4)).length = size.toNat - 4 ↔
      size.toNat - 4 ≤ rest.length := by
    rw [List.length_take]
    omega
  simp only [Bytes.ofWord, List.cons_append, List.nil_append] at hunread
  rw [receive, hunread]
  simp only [Bytes.word_ofWord, hthere]

theorem runOut_quiet (hquiet : s.resetDue = false) (atEnd : Error) :
    (s.runOut atEnd : EStateM.Result Error Socket α) = .error atEnd { s with unread := [] } := by
  rw [runOut, hquiet]
  rfl

/-- A receive takes, leaves and answers what the unread bytes say. -/
theorem receive_of_cuts (hquiet : s.resetDue = false) (h : Cuts s.unread piece left answer) :
    said s.receive = answer ∧ stateAfter s.receive = { s with unread := left } := by
  generalize hunread : s.unread = unread at h
  cases h with
  | closed hshort =>
    rw [receive_short (hunread ▸ hshort), runOut_quiet hquiet]
    exact ⟨rfl, rfl⟩
  | tooLarge rest hsize =>
    rw [receive_sized hunread, if_pos hsize]
    exact ⟨rfl, rfl⟩
  | @hollow size rest hsize =>
    have hmaximum : ¬ packetMaximum < size.toNat := by
      unfold packetMaximum
      omega
    have hnone : size.toNat - 4 = 0 := by omega
    rw [receive_sized hunread, if_neg hmaximum, hnone]
    exact ⟨rfl, rfl⟩
  | @body size body rest hmaximum hbody hsize =>
    have hlength : size.toNat - 4 = body.length := by omega
    have hthere : body.length ≤ (body ++ left).length := by
      rw [List.length_append]
      exact Nat.le_add_right _ _
    rw [receive_sized hunread, if_neg (Nat.not_lt.mpr hmaximum), hlength, List.take_left,
      List.drop_left, if_pos hthere]
    exact ⟨rfl, rfl⟩
  | @brokenOff size short hmaximum hshort =>
    have hlength : ¬ size.toNat - 4 ≤ short.length := by omega
    rw [receive_sized hunread, if_neg (Nat.not_lt.mpr hmaximum), if_neg hlength,
      runOut_quiet hquiet]
    exact ⟨rfl, rfl⟩

/-- The same bytes are cut in one way only. -/
theorem cuts_unique {unread piece piece' left left' : Bytes} {answer answer' : Except Error Bytes}
    (h : Cuts unread piece left answer) (h' : Cuts unread piece' left' answer') :
    piece = piece' ∧ left = left' ∧ answer = answer' := by
  obtain ⟨hsaid, hafter⟩ := receive_of_cuts (s := { unread }) rfl h
  obtain ⟨hsaid', hafter'⟩ := receive_of_cuts (s := { unread }) rfl h'
  have hleft : left = left' := congrArg Socket.unread (hafter.symm.trans hafter')
  have hpiece := h.append_eq.symm.trans h'.append_eq
  rw [hleft] at hpiece
  exact ⟨List.append_cancel_right hpiece, hleft, hsaid.symm.trans hsaid'⟩

def taken (n : Nat) (s : Socket) : Bytes :=
  (again receive n s).unread.take
    ((again receive n s).unread.length - (again receive (n + 1) s).unread.length)

/-- A departure that was not due does not become due by reading. -/
theorem resetDue_receive (hquiet : s.resetDue = false) :
    (stateAfter s.receive).resetDue = false := by
  obtain ⟨piece, left, answer, hcut⟩ := Cuts.exists_cuts s.unread
  rw [(receive_of_cuts hquiet hcut).2]
  exact hquiet

theorem resetDue_again (hquiet : s.resetDue = false) (n : Nat) :
    (again receive n s).resetDue = false := by
  induction n generalizing s with
  | zero => exact hquiet
  | succ n ih => exact ih (resetDue_receive hquiet)

/-- Every receive cuts what the ones before it have left. -/
theorem cuts_again (hquiet : s.resetDue = false) (n : Nat) :
    Cuts (again receive n s).unread (s.taken n) (again receive (n + 1) s).unread
      (saidAfter receive n s) := by
  obtain ⟨piece, left, answer, hcut⟩ := Cuts.exists_cuts (again receive n s).unread
  obtain ⟨hsaid, hafter⟩ := receive_of_cuts (resetDue_again hquiet n) hcut
  have hleft : (again receive (n + 1) s).unread = left := by rw [again_succ, hafter]
  have htaken : s.taken n = piece := by
    rw [Socket.taken, hleft, hcut.append_eq]
    simp
  rw [htaken, hleft, saidAfter, hsaid]
  exact hcut

/-- By induction on the number of receives: each goes on where the last one stopped. -/
theorem unread_eq_flatMap_taken (hquiet : s.resetDue = false) (n : Nat) :
    s.unread = (List.range n).flatMap s.taken ++ (again receive n s).unread := by
  induction n with
  | zero => rfl
  | succ n ih =>
    rw [List.range_succ, List.flatMap_append, List.append_assoc, List.flatMap_singleton]
    rw [← (cuts_again hquiet n).append_eq]
    exact ih

/-- A stream that is closed stays closed. -/
theorem closed_of_short (hquiet : s.resetDue = false) (hshort : s.unread.length < 4) (n : Nat) :
    saidAfter receive n s = .error .closed := by
  obtain ⟨hsaid, hafter⟩ := receive_of_cuts hquiet (.closed hshort)
  induction n generalizing s with
  | zero => exact hsaid
  | succ n ih =>
    have hnone : (stateAfter s.receive).unread.length < 4 := by
      rw [hafter]
      exact Nat.zero_lt_succ 3
    have hstill := receive_of_cuts (resetDue_receive hquiet) (.closed hnone)
    exact ih (resetDue_receive hquiet) hnone hstill.1 hstill.2

/-- By induction on the number of unread bytes: every receive that does not find the stream closed
takes four of them at least. -/
theorem exists_closed_iff (hquiet : s.resetDue = false) :
    ∃ k ≤ s.unread.length / 4, ∀ n, saidAfter receive n s = .error .closed ↔ k ≤ n := by
  induction hlength : s.unread.length using Nat.strongRecOn generalizing s with
  | ind length ih =>
    obtain ⟨piece, left, answer, hcut⟩ := Cuts.exists_cuts s.unread
    obtain ⟨hsaid, hafter⟩ := receive_of_cuts hquiet hcut
    have hleft : (stateAfter s.receive).unread = left := by rw [hafter]
    rcases hcut.closed_or_shorter with ⟨-, hshort, -⟩ | ⟨hopen, hshorter⟩
    · exact ⟨0, Nat.zero_le _, fun n => iff_of_true (closed_of_short hquiet hshort n) n.zero_le⟩
    · obtain ⟨k, hk, hiff⟩ := ih left.length (by omega) (resetDue_receive hquiet)
        (congrArg List.length hleft)
      refine ⟨k + 1, by omega, ?_⟩
      intro n
      cases n with
      | zero =>
        refine iff_of_false ?_ (Nat.not_succ_le_zero k)
        exact fun h => hopen (hsaid.symm.trans h)
      | succ n => rw [saidAfter_succ, hiff n, Nat.succ_le_succ_iff]

end Socket

namespace Intake

theorem length_resized (n : Nat) (buffer : Bytes) : (resized n buffer).length = n := by
  rw [resized, List.length_append, List.length_take, List.length_replicate]
  omega

/-- If there are bytes enough, none of the old ones is left in the buffer. -/
theorem fill_of_le {buffer unread : Bytes} (h : buffer.length ≤ unread.length) :
    fill buffer unread = (unread.take buffer.length, unread.drop buffer.length) := by
  induction buffer generalizing unread with
  | nil => rfl
  | cons old buffer ih =>
    cases unread with
    | nil => cases h
    | cons b unread =>
      rw [fill, ih (Nat.le_of_succ_le_succ h)]
      rfl

/-- Whatever the buffer holds, what is received through it is what is received without it. -/
theorem receive_eq_holding (i : Intake) :
    ∃ buffer, i.receive = holding buffer i.socket.receive := by
  unfold receive
  split
  · rename_i a b c d rest hunread
    have hsized : i.socket.unread = Bytes.ofWord (Bytes.word a b c d) ++ rest := by
      rw [Bytes.ofWord_word]
      exact hunread
    rw [Socket.receive_sized hsized]
    dsimp only
    by_cases hmaximum : packetMaximum < (Bytes.word a b c d).toNat
    · rw [if_pos hmaximum, if_pos hmaximum]
      exact ⟨_, rfl⟩
    rw [if_neg hmaximum, if_neg hmaximum]
    by_cases hhollow : (Bytes.word a b c d).toNat ≤ 4
    · have hnone : (Bytes.word a b c d).toNat - 4 = 0 := by omega
      rw [if_pos hhollow, hnone]
      exact ⟨_, rfl⟩
    rw [if_neg hhollow]
    by_cases hshort : rest.length < (Bytes.word a b c d).toNat - 4
    · rw [if_pos hshort, if_neg (Nat.not_le.mpr hshort)]
      exact ⟨_, rfl⟩
    · have hthere := Nat.le_of_not_lt hshort
      rw [if_neg hshort, if_pos hthere, fill_of_le, length_resized]
      · exact ⟨_, rfl⟩
      · rwa [length_resized]
  · rename_i hnone
    have hshort : i.socket.unread.length < 4 := by
      match h : i.socket.unread with
      | [] | [_] | [_, _] | [_, _, _] => simp
      | a :: b :: c :: d :: rest => exact absurd h (hnone a b c d rest)
    rw [Socket.receive_short hshort]
    exact ⟨_, rfl⟩

/-- The buffer has no say in what is answered or left. -/
theorem receive_same (i : Intake) :
    said i.receive = said i.socket.receive ∧
      (stateAfter i.receive).socket = stateAfter i.socket.receive := by
  obtain ⟨buffer, hreceive⟩ := i.receive_eq_holding
  rw [hreceive]
  cases i.socket.receive <;> exact ⟨rfl, rfl⟩

theorem again_same (i : Intake) (n : Nat) :
    (again receive n i).socket = again Socket.receive n i.socket := by
  induction n generalizing i with
  | zero => rfl
  | succ n ih =>
    have hstep := ih (stateAfter i.receive)
    rw [i.receive_same.2] at hstep
    exact hstep

theorem saidAfter_same (i : Intake) (n : Nat) :
    saidAfter receive n i = saidAfter Socket.receive n i.socket := by
  rw [saidAfter, (again receive n i).receive_same.1, again_same]
  rfl

end Intake

/-- On any stream, however often and after whatever failures: each receive takes, leaves and answers
what the bytes say that are unread before it, and they say it in one way only; the pieces follow one
another and make up all that has been read; a buffer makes no difference, whatever is in it; and
after as many receives as there are fours of bytes, or fewer, the stream is closed and stays so. -/
theorem receives_partition (s : Socket) (hquiet : s.resetDue = false) :
    (∀ n, Cuts (again Socket.receive n s).unread (s.taken n)
      (again Socket.receive (n + 1) s).unread (saidAfter Socket.receive n s)) ∧
    (∀ unread piece left answer piece' left' answer',
      Cuts unread piece left answer → Cuts unread piece' left' answer' →
        piece = piece' ∧ left = left' ∧ answer = answer') ∧
    (∀ n, s.unread = (List.range n).flatMap s.taken ++ (again Socket.receive n s).unread) ∧
    (∀ buffer n, saidAfter Intake.receive n ⟨s, buffer⟩ = saidAfter Socket.receive n s ∧
      (again Intake.receive n ⟨s, buffer⟩).socket = again Socket.receive n s) ∧
    ∃ k ≤ s.unread.length / 4, ∀ n,
      saidAfter Socket.receive n s = .error .closed ↔ k ≤ n := by
  refine ⟨Socket.cuts_again hquiet, ?_, Socket.unread_eq_flatMap_taken hquiet, ?_,
    Socket.exists_closed_iff hquiet⟩
  · exact fun _ _ _ _ _ _ _ h h' => Socket.cuts_unique h h'
  · exact fun buffer n => ⟨Intake.saidAfter_same ⟨s, buffer⟩ n, Intake.again_same ⟨s, buffer⟩ n⟩

/-- A frame, a length word that does not count itself, one that is too large, and a frame that
breaks off. -/
def ragged : Socket :=
  { unread := [0, 0, 0, 6, 7, 8, 0, 0, 0, 3, 255, 0, 0, 0, 0, 0, 0, 9, 1] }

/-- Whatever is in the buffer, the broken body does not get out of it. -/
theorem receives_partition_ragged :
    ragged.resetDue = false ∧
    (∀ buffer, saidAfter Intake.receive 0 ⟨ragged, buffer⟩ = .ok [7, 8] ∧
      saidAfter Intake.receive 3 ⟨ragged, buffer⟩ = .error (.stream .earlyEnd)) ∧
    ragged.taken 2 = [255, 0, 0, 0] ∧
    ∃ k ≤ 4, ∀ n, saidAfter Socket.receive n ragged = .error .closed ↔ k ≤ n := by
  obtain ⟨hcuts, hunique, -, hbuffer, hclosed⟩ := receives_partition ragged rfl
  refine ⟨rfl, ?_, ?_, hclosed⟩
  · intro buffer
    rw [(hbuffer buffer 0).1, (hbuffer buffer 3).1]
    exact ⟨rfl, rfl⟩
  · have hlarge : Cuts (again Socket.receive 2 ragged).unread (Bytes.ofWord 0xff000000)
        [0, 0, 0, 9, 1] (.error (.frameTooLarge 0xff000000)) :=
      @Cuts.tooLarge 0xff000000 [0, 0, 0, 9, 1] (by decide)
    exact (hunique _ _ _ _ _ _ _ (hcuts 2) hlarge).1

end GuestInventory.Remote
