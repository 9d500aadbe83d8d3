import TeamPresence.Session.Action

/-!
# Worlds

A world is a clock, perhaps a server, and any number of clients, each with a session and an end of
the network. The clients act one at a time. While one of them waits time passes for all of them, so
what is under way to the others arrives too.
-/

namespace TeamPresence

/-- A client. -/
structure Client where
  session : Session
  link : Link
deriving DecidableEq

/-- The clients, the server and the clock. -/
structure World where
  now : Rat := 0
  service : Option Service := none
  clients : List Client
deriving DecidableEq

namespace World

def net (w : World) (c : Client) : Net := { now := w.now, service := w.service, link := c.link }

/-- The world after a run of a client. -/
def settle {α : Type} (w : World) (i : Nat) (r : Run α) : World :=
  { now := r.net.now, service := r.net.service
    clients := w.clients.set i { session := r.session, link := r.net.link } }

def act (w : World) (i : Nat) (a : Action) : Option (Run Answer × World) :=
  w.clients[i]?.map fun c =>
    let r := a.run c.session (w.net c)
    (r, w.settle i r)

/-- The world after some time in which nobody waits. -/
def sleep (w : World) (seconds : Rat) : World := { w with now := Clock.after seconds w.now }

/-- A datagram from elsewhere reaches the server. -/
def deliver (w : World) (data : Bytes) (sender : Address) : Option Bytes × World :=
  match w.service with
  | some s =>
    let responded := s.respond data sender
    (responded.1.packet?, { w with service := some responded.2 })
  | none => (none, w)

end World

end TeamPresence
