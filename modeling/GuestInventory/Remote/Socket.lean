import GuestInventory.Remote.Error

/-!
One end of a byte stream to the daemon: what the daemon has written and nobody has read yet, and
what went the other way. Frames are cut off the unread bytes by their length word, which counts
itself. A read that runs out of data takes what there was. An intake receives the same frames into
a buffer that it uses again and again.
-/
namespace GuestInventory.Remote

structure Socket where
  unread : Bytes
  sent : Array Bytes := #[]
  /-- This end writes no more. -/
  writeShut : Bool := false
  /-- The other end takes nothing more. -/
  peerGone : Bool := false
  /-- The other end went without taking what had been sent to it. It is told once, where reading
  runs out of data. -/
  resetDue : Bool := false
  deriving DecidableEq

namespace Socket

/-- Reading wanted more than there was; `atEnd` is what that means at the end of the stream. -/
def runOut (atEnd : Error) (s : Socket) : EStateM.Result Error Socket α :=
  if s.resetDue then .error (.stream .connectionReset) { s with unread := [], resetDue := false }
  else .error atEnd { s with unread := [] }

/-- The body of the next frame. Of a frame that is too large, only the length word is read. -/
def receive : EStateM Error Socket Bytes := fun s =>
  match s.unread with
  | a :: b :: c :: d :: rest =>
    let size := (Bytes.word a b c d).toNat
    if packetMaximum < size then .error (.frameTooLarge size) { s with unread := rest }
    else
      let body := rest.take (size - 4)
      if body.length = size - 4 then .ok body { s with unread := rest.drop (size - 4) }
      else s.runOut (.stream .earlyEnd)
  | _ => s.runOut .closed

def send (data : Bytes) : EStateM Error Socket Unit := fun s =>
  if data.isEmpty then .ok () s
  else if s.writeShut || s.peerGone then .error (.stream .brokenPipe) s
  else .ok () { s with sent := s.sent.push data }

/-- Ends the writing side; reading goes on. -/
def shut : EStateM Error Socket Unit := fun s => .ok () { s with writeShut := true }

/-- The other end goes away with everything that was sent to it unread. -/
def losePeer (s : Socket) : Socket :=
  if s.peerGone then s else { s with peerGone := true, resetDue := !s.sent.isEmpty }

theorem receive_shrinks {s s' : Socket} {body : Bytes} (h : receive s = .ok body s') :
    s'.unread.length < s.unread.length := by
  unfold receive at h
  split at h
  · rename_i a b c d rest hs
    simp only at h
    split at h
    · cases h
    · split at h
      · cases h
        simp only [hs, List.length_drop, List.length_cons]
        omega
      · unfold runOut at h
        split at h <;> cases h
  · unfold runOut at h
    split at h <;> cases h

theorem receive_tooLarge_shrinks {s s' : Socket} {size : Nat}
    (h : receive s = .error (.frameTooLarge size) s') : s'.unread.length < s.unread.length := by
  unfold receive at h
  split at h
  · rename_i a b c d rest hs
    simp only at h
    split at h
    · cases h
      simp only [hs, List.length_cons]
      omega
    · split at h
      · cases h
      · unfold runOut at h
        split at h <;> cases h
  · unfold runOut at h
    split at h <;> cases h

end Socket

/-- A socket with the buffer that bodies are received into. Of a body that broke off, the buffer
keeps what there was, over what it held before. -/
structure Intake where
  socket : Socket
  buffer : Bytes

namespace Intake

/-- The buffer at a length of `n`: cut off there, or filled up with zeros. -/
def resized (n : Nat) (buffer : Bytes) : Bytes :=
  buffer.take n ++ List.replicate (n - buffer.length) 0

/-- Puts bytes over those in the buffer, one by one, and tells what is left of them. -/
def fill : (buffer unread : Bytes) → Bytes × Bytes
  | [], unread => ([], unread)
  | old :: buffer, [] => (old :: buffer, [])
  | _ :: buffer, b :: unread =>
    let (filled, left) := fill buffer unread
    (b :: filled, left)

/-- An end of a socket, with what the buffer holds then. -/
def holding (buffer : Bytes) : EStateM.Result Error Socket α → EStateM.Result Error Intake α
  | .ok a socket => .ok a { socket, buffer }
  | .error e socket => .error e { socket, buffer }

/-- Receives a frame through the buffer. A body that is there in full is taken out of it, and a
frame without a body does not touch it. -/
def receive : EStateM Error Intake Bytes := fun i =>
  match i.socket.unread with
  | a :: b :: c :: d :: rest =>
    let size := (Bytes.word a b c d).toNat
    if packetMaximum < size then
      holding i.buffer (.error (.frameTooLarge size) { i.socket with unread := rest })
    else if size ≤ 4 then holding i.buffer (.ok [] { i.socket with unread := rest })
    else
      -- The buffer is resized before a byte is read, and stays so if the body breaks off.
      let (filled, left) := fill (resized (size - 4) i.buffer) rest
      if rest.length < size - 4 then holding filled (i.socket.runOut (.stream .earlyEnd))
      else holding [] (.ok filled { i.socket with unread := left })
  | _ => holding i.buffer (i.socket.runOut .closed)

end Intake

end GuestInventory.Remote
