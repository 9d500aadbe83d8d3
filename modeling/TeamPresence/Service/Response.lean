import TeamPresence.Service.Basic

/-!
# Responses

What the endpoint of a service does with a datagram: the packet of the reply goes back to the
sender, unless handling broke down or the packet is longer than a datagram may be.
-/

namespace TeamPresence

/-- What becomes of a datagram that was taken in. -/
inductive Response
  | reply (r : Reply)
  /-- The reply is too long for a datagram, and is dropped. -/
  | oversized (size : Nat)
  /-- Handling broke down, and there is no reply. -/
  | broken (f : Fault)
deriving DecidableEq

/-- The response to the outcome of handling a datagram. -/
def Response.of : Except Fault Reply → Response
  | .error f => broken f
  | .ok r => if maxDatagram < r.serialize.length then oversized r.serialize.length else reply r

def Response.packet? : Response → Option Bytes
  | reply r => some r.serialize
  | oversized _ | broken _ => none

/-- The response to a datagram, and the service after it. -/
def Service.respond (s : Service) (data : Bytes) (sender : Address) : Response × Service :=
  let handled := s.handle data (some sender)
  (.of handled.1, handled.2)

end TeamPresence
