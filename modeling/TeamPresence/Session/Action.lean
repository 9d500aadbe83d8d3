import TeamPresence.Session.Basic

/-!
# Actions

All that a client can be told to do with its session and its end of the network, as data. A history
of a session is a list of actions.
-/

namespace TeamPresence

/-- Something that a client is told to do. -/
inductive Action
  | openEndpoint
  | closeEndpoint
  | register (name : String)
  /-- Register a name over an endpoint of its own. -/
  | registerOnce (name : String)
  | fetchDescription
  | updateStatus (status : Int) (giveUp : Bool)
  | changeTeam (team : Int) (giveUp : Bool)
  | teamStatus (team : Option Int)
  | leave
  | request (a : Ask)
  /-- Take in a datagram that nothing asked for. -/
  | takeIn (data : Bytes)
deriving Repr, DecidableEq

/-- What an action returns. -/
inductive Answer
  | done
  | networkId (id : Int)
  | names (teams statuses : List String)
  | members (list : List (String × UInt8))
  | reply (r : Reply)
deriving DecidableEq

namespace Action

/-- The run of an action that only touches the client's end of the network. -/
def onLink (f : Link → Link) (s : Session) (net : Net) : Run Answer :=
  { result := .ok .done, session := s, net := { net with link := f net.link } }

/-- The run of an action. -/
def run (s : Session) (net : Net) : Action → Run Answer
  | openEndpoint => onLink (fun l => l.reopen s.manner.timeout) s net
  | closeEndpoint => onLink Link.close s net
  | register name => (s.register name net).map .networkId
  | registerOnce name => (s.registerOnce name net).map .networkId
  | fetchDescription => (s.fetchDescription net).map fun n => .names n.1 n.2
  | updateStatus status giveUp => (s.updateStatus status giveUp net).map fun _ => .done
  | changeTeam team giveUp => (s.changeTeam team giveUp net).map fun _ => .done
  | teamStatus team => (s.teamStatus team net).map .members
  | leave => (s.leave net).map fun _ => .done
  | request a => (s.request a net).map .reply
  | takeIn data => onLink (fun l => l.expect net.now ⟨net.now, data⟩) s net

end Action

end TeamPresence
