import GuestInventory.Remote.Socket

/-!
Talking to a daemon that writes only when it is asked. A run is a function of all that the daemon
has written; of the frames that a run over the bytes heard so far would send, those may be handed
over that do not depend on what is still to come. Since every call waits for its reply, that is one
frame more than there are answers.
-/
namespace GuestInventory.Remote.Relay

/-- How many calls are decided by unread bytes: one for each frame that is no event packet, and
one for each frame that is refused for its size. -/
def answered (s : Socket) : Nat :=
  match _h : s.receive with
  | .ok body s' =>
    match Packet.decode body with
    | .ok p => if p.kind = .message then answered s' else answered s' + 1
    | .error _ => answered s' + 1
  | .error (.frameTooLarge _) s' => answered s' + 1
  | .error _ _ => 0
termination_by s.unread.length
decreasing_by
  · exact Socket.receive_shrinks (by assumption)
  · exact Socket.receive_shrinks (by assumption)
  · exact Socket.receive_shrinks (by assumption)
  · exact Socket.receive_tooLarge_shrinks (by assumption)

/-- The frames that may be handed over once `heard` has been heard. -/
def due (heard : Bytes) (frames : Array Bytes) : Array Bytes :=
  frames.take (answered { unread := heard } + 1)

end GuestInventory.Remote.Relay
