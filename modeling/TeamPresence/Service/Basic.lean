import TeamPresence.Directory.Update
import TeamPresence.Service.Memo
import TeamPresence.Wire.Reply

/-!
# The service

A service answers each datagram with one reply: an acknowledgement, the information asked for, or a
refusal with its reason. It holds a directory, the description of it that is built once, and the
memo by which it knows a registration that is sent again.
-/

namespace TeamPresence

/-- A directory that answers datagrams. -/
structure Service where
  directory : Directory
  /-- Whether a repeated registration gets the network ID of the first. -/
  dedupe : Bool
  /-- The senders whose last registration is remembered. -/
  memory : Int
  memo : Memo := Memo.empty
  description : Reply
deriving DecidableEq

namespace Service

def malformedReason : String := "Failed to parse malformed message"

def create (directory : Directory) (dedupe : Bool) (memory : Int) : Except Fault Service := do
  let body ← Wire.packDescription directory.teamNames directory.statuses
  let description ← Reply.make ReplyKind.description.code.toNat body
  return { directory, dedupe, memory, description }

/-- The registration that a sender repeats: its last one, if it was for the same name. -/
def repeated? (s : Service) (sender : Option Address) (name : String) : Option Registration :=
  if s.dedupe then (sender.bind s.memo.find?).filter fun r => r.name == name else none

/-- The acknowledgement of a registration: the network ID in decimal. -/
def acknowledge (id : Nat) : Except Fault Reply :=
  match Latin1.encode (toString id) with
  | .ok body => Reply.make ReplyKind.registered.code.toNat body
  | .error gap => .error (.unencodable gap)

/-- The service after a registration was remembered, if it is to be. -/
def remember (s : Service) (sender : Option Address) (name : String) (id : Nat) :
    Except Fault Unit × Service :=
  match sender with
  | some a =>
    if s.dedupe then
      let remembered := s.memo.remember s.memory ⟨a, name, id⟩
      (remembered.1, { s with memo := remembered.2 })
    else (.ok (), s)
  | none => (.ok (), s)

def confirm (s : Service) (sender : Option Address) (name : String) (id : Nat) :
    Except Fault Reply × Service :=
  let remembered := s.remember sender name id
  (remembered.1.bind fun _ => acknowledge id, remembered.2)

/-- Registers a name, or finds the registration that is repeated. -/
def register (s : Service) (name : String) (sender : Option Address) :
    Except Fault Reply × Service :=
  match s.repeated? sender name with
  | some r => s.confirm sender name r.networkId
  | none =>
    match s.directory.register name with
    | .error f => (.error f, s)
    | .ok (directory, user) => { s with directory }.confirm sender name user.networkId.toNat

/-- Updates the status and team of the user that a request names. -/
def updateStatus (s : Service) (r : Request) : Except Fault Reply × Service :=
  match s.directory.user? r.networkId with
  | none => (.error (.unknownUser r.networkId), s)
  | some _ =>
    match s.directory.update (.member r.networkId) r.status.toNat r.team.toNat with
    | .error f => (.error f, s)
    | .ok (directory, _) => (.ok Reply.updated, { s with directory })

/-- Shows the roster of the team that a request names. -/
def teamStatus (s : Service) (r : Request) : Except Fault Reply := do
  let (names, statuses) ← s.directory.teamView r.team.toNat
  let body ← Wire.packTeamStatus names statuses
  Reply.make ReplyKind.teamStatus.code.toNat body

/-- The outcome of a request: a reply, or a fault. -/
def answer (s : Service) (r : Request) (sender : Option Address) :
    Except Fault Reply × Service :=
  match r.kind? with
  | some .register => s.register r.text sender
  | some .updateStatus => s.updateStatus r
  | some .teamStatus => (s.teamStatus r, s)
  | some .description => (.ok s.description, s)
  | none => (.error .unknownKind, s)

/-- The reply to the outcome of a request. A refusal is answered with its words; any other fault
stays one. -/
def replyTo : Except Fault Reply → Except Fault Reply
  | .ok reply => .ok reply
  | .error f => if f.isRefusal then .ok (Reply.refusal f.message) else .error f

/-- The reply to a datagram, and the service after it. -/
def handle (s : Service) (data : Bytes) (sender : Option Address) :
    Except Fault Reply × Service :=
  match Request.parse data with
  | .error _ => (.ok (Reply.refusal malformedReason), s)
  | .ok r =>
    let answered := s.answer r sender
    (replyTo answered.1, answered.2)

end Service

end TeamPresence
