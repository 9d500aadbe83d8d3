import TeamPresence.Session.Exchange
import TeamPresence.Settings.Basic

/-!
# Sessions

A session is a client's side of a conversation with one server. It holds what each request says of
the client (network ID, team, status), and takes on a new value only once the server acknowledged
it. Every operation makes at most one exchange.
-/

namespace TeamPresence

/-- A client's side of a conversation. -/
structure Session where
  host : String := "127.0.0.1"
  port : Int := defaultPort
  manner : Manner
  networkId : Int := noNetworkId
  team : Int := noTeam
  status : Int := noStatus
  displayName : Option String := none
  teamNames : List String := []
  statusNames : List String := []
deriving Repr, DecidableEq

/-- What an operation of a session leads to. -/
structure Run (α : Type) where
  result : Except Fault α
  session : Session
  net : Net
  /-- The exchange that was made, if it came to one. -/
  exchange : Option Exchange := none

namespace Run

variable {α β : Type}

def sent (r : Run α) : List Bytes := (r.exchange.map Exchange.sent).getD []

def refusals (r : Run α) : List String := (r.exchange.map Exchange.refusals).getD []

/-- The run that reads what another returns, and may change the session then. -/
def reading (r : Run α) (read : α → Except Fault β × Session) : Run β :=
  match r.result with
  | .ok a => { r with result := (read a).1, session := (read a).2 }
  | .error f => { r with result := .error f }

def map (f : α → β) (r : Run α) : Run β := { r with result := r.result.map f }

end Run

namespace Session

/-- The session that client settings ask for. -/
def ofSettings (c : ClientSettings) : Session := {
  host := c.host
  port := c.port
  manner := ⟨c.timeout, c.maxAttempts⟩
  networkId := c.networkId.getD noNetworkId }

def isRegistered (s : Session) : Bool := s.networkId != noNetworkId

def packet (s : Session) (a : Ask) : Except Fault Bytes := do
  let r ← Request.make a.code s.networkId (a.team.getD s.team) (a.status.getD s.status) a.body
  return r.serialize

/-- Makes a request, until the answer comes. -/
def request (s : Session) (a : Ask) (net : Net) : Run Reply :=
  if !net.link.isOpen then { result := .error .closed, session := s, net }
  else match s.packet a with
    | .error f => { result := .error f, session := s, net }
    | .ok packet =>
      let made := s.manner.exchange a packet net
      { result := made.1.outcome, session := s, net := made.2, exchange := some made.1 }

def registration (body : Bytes) : Ask :=
  { code := RequestKind.register.code.toNat, body, expected := ReplyKind.registered.code.toNat }

def adoptId (s : Session) (name : String) (reply : Reply) : Except Fault Int × Session :=
  match reply.networkId with
  | .ok id => (.ok id, { s with networkId := id, displayName := some name })
  | .error f => (.error f, s)

/-- Registers a name and takes on the network ID assigned to it. -/
def register (s : Session) (name : String) (net : Net) : Run Int :=
  match Latin1.encode name with
  | .error gap => { result := .error (.unencodable gap), session := s, net }
  | .ok body => (s.request (registration body) net).reading (s.adoptId name)

/-- Registers a name over an endpoint that is opened for it and closed afterwards. -/
def registerOnce (s : Session) (name : String) (net : Net) : Run Int :=
  let r := s.register name { net with link := net.link.reopen s.manner.timeout }
  { r with net := { r.net with link := r.net.link.close } }

/-- The session after a description came. The teams are taken on before the statuses are read. -/
def adoptNames (s : Session) (reply : Reply) : Except Fault (List String × List String) × Session :=
  match reply.teamNames with
  | .error f => (.error f, s)
  | .ok teamNames =>
    let s := { s with teamNames }
    match reply.statusNames with
    | .error f => (.error f, s)
    | .ok statusNames => (.ok (teamNames, statusNames), { s with statusNames })

def inquiry : Ask :=
  { code := RequestKind.description.code.toNat, expected := ReplyKind.description.code.toNat }

/-- Asks for the teams and statuses of the server, and takes them on. -/
def fetchDescription (s : Session) (net : Net) : Run (List String × List String) :=
  (s.request inquiry net).reading s.adoptNames

def stateUpdate (team status : Int) (giveUp : Bool) : Ask :=
  { code := RequestKind.updateStatus.code.toNat, expected := ReplyKind.updated.code.toNat
    team := some team, status := some status, giveUp }

/-- Asks the server to record a team and a status, and takes them on when it has. -/
def push (s : Session) (team status : Int) (giveUp : Bool) (net : Net) : Run Unit :=
  (s.request (stateUpdate team status giveUp) net).reading fun _ =>
    (.ok (), { s with team, status })

def updateStatus (s : Session) (status : Int) (giveUp : Bool) (net : Net) : Run Unit :=
  s.push s.team status giveUp net

def changeTeam (s : Session) (team : Int) (giveUp : Bool) (net : Net) : Run Unit :=
  s.push team s.status giveUp net

/-- Leaves every team and gives up the status. -/
def leave (s : Session) (net : Net) : Run Unit := s.push noTeam noStatus false net

/-- The members of a team that a reply tells, without the vacant slots. -/
def membersIn (reply : Reply) : Except Fault (List (String × UInt8)) := do
  let names ← reply.userNames
  let statuses ← reply.statusVector
  return (names.zip statuses).filter fun m => !m.1.isEmpty

def muster (team : Option Int) : Ask :=
  { code := RequestKind.teamStatus.code.toNat, expected := ReplyKind.teamStatus.code.toNat, team }

/-- Asks for the members of a team and their statuses. -/
def teamStatus (s : Session) (team : Option Int) (net : Net) : Run (List (String × UInt8)) :=
  (s.request (muster team) net).reading fun reply => (membersIn reply, s)

end Session

end TeamPresence
