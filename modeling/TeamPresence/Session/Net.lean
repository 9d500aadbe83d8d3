import TeamPresence.Service.Response
import TeamPresence.Session.Transit

/-!
# The network

A client reaches the server over a network that may lose, repeat and delay datagrams. What becomes
of each packet is its fate, taken from a script; a packet beyond the script is handled at once. Time
passes only while a client waits. A client that never gives up may send packets for ever; a budget
cuts its run off.

* `Net.send` lets the next fate come true for a packet.
* `Net.discard` drops what has already arrived.
* `Net.wait` takes the next datagram to arrive, if it arrives in time.
-/

namespace TeamPresence

/-- What happens after a packet left. -/
inductive Event
  /-- The server handles the packet. Its reply is lost, or arrives after a delay. -/
  | handled (reply : Option Rat)
  /-- A datagram of another sender reaches the server. -/
  | elsewhere (sender : Address) (data : Bytes)
  /-- A datagram arrives after a delay, whoever sent it. -/
  | planted (data : Bytes) (delay : Rat)
deriving DecidableEq

/-- What becomes of a packet. -/
structure Fate where
  failure : Option String := none
  events : List Event
deriving DecidableEq

/-- The fate of a packet that the server handles at once. -/
def Fate.delivered : Fate := { events := [.handled (some 0)] }

/-- A client's end of the network. -/
structure Link where
  address : Address
  isOpen : Bool := false
  transit : Transit := .ordered []
  script : List Fate
deriving DecidableEq

/-- The link with one more datagram under way, if it is open. -/
def Link.expect (l : Link) (now : Rat) (a : Arrival) : Link :=
  if l.isOpen then { l with transit := l.transit.add now a } else l

/-- The link opened for a client with a timeout, with nothing under way to it. -/
def Link.reopen (l : Link) (timeout : Binary64) : Link :=
  { l with isOpen := true, transit := .empty timeout }

/-- The closed link. What was under way to it is lost. -/
def Link.close (l : Link) : Link := { l with isOpen := false, transit := .ordered [] }

/-- After how many packets a step is cut off, unless another budget is given. A client itself knows
no such limit. -/
def stepBudget : Nat := 50

/-- The network as one client sees it. -/
structure Net where
  now : Rat := 0
  service : Option Service := none
  link : Link
  /-- After how many packets a retry without end is cut off, so that every run has an end. The
  network sets no limit: what is proved of runs holds for every budget. -/
  budget : Nat := stepBudget
deriving DecidableEq

namespace Net

def expect (n : Net) (data : Bytes) (delay : Rat) : Net :=
  { n with link := n.link.expect n.now ⟨Clock.after delay n.now, data⟩ }

/-- The network after a datagram reached the server, and the packet sent back. -/
def serve (n : Net) (data : Bytes) (sender : Address) : Option Bytes × Net :=
  match n.service with
  | some s =>
    let responded := s.respond data sender
    (responded.1.packet?, { n with service := some responded.2 })
  | none => (none, n)

/-- The network after one thing happened to a packet. -/
def happen (packet : Bytes) (n : Net) : Event → Net
  | .handled delay =>
    let served := n.serve packet n.link.address
    match served.1, delay with
    | some reply, some d => served.2.expect reply d
    | _, _ => served.2
  | .elsewhere sender data => (n.serve data sender).2
  | .planted data delay => n.expect data delay

/-- The fate of the next packet, and the link without it. -/
def nextFate (n : Net) : Fate × Net :=
  match n.link.script with
  | f :: rest => (f, { n with link := { n.link with script := rest } })
  | [] => (Fate.delivered, n)

/-- Sends a packet. Tells why sending failed, if it did. -/
def send (n : Net) (packet : Bytes) : Option String × Net :=
  let next := n.nextFate
  (next.1.failure, next.1.events.foldl (happen packet) next.2)

/-- Drops every datagram that has arrived. -/
def discard (n : Net) : Net :=
  { n with link := { n.link with transit := n.link.transit.discard n.now } }

/-- Waits for a datagram: the oldest that has arrived, or the next to arrive in time. -/
def wait (n : Net) (patience : Patience) : Option Bytes × Net :=
  let w := n.link.transit.wait n.now patience
  (w.received, { n with now := w.now, link := { n.link with transit := w.transit } })

end Net

end TeamPresence
