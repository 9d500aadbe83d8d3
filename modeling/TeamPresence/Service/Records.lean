import TeamPresence.Journal.Record
import TeamPresence.Service.Basic

/-!
# What a service tells

The records of a datagram are read off the service before it, the datagram and its sender. Handling
a datagram does not depend on them.
-/

namespace TeamPresence

/-- An address between parentheses. -/
def Address.shown (a : Address) : String :=
  "(" ++ Text.quote a.host ++ ", " ++ toString a.port ++ ")"

/-- An address with a colon. -/
def Address.brief (a : Address) : String := a.host ++ ":" ++ toString a.port

/-- A sender that may be unknown. -/
def senderShown (sender : Option Address) : String := (sender.map Address.shown).getD "None"

def directoryRecord (severity : Severity) (message : String) : Record :=
  ⟨"server.directory", severity, message⟩

def serviceRecord (severity : Severity) (message : String) : Record :=
  ⟨"server.dispatcher", severity, message⟩

def Directory.creationRecords (d : Directory) : List Record :=
  [directoryRecord .debug
    ("Directory created with " ++ toString d.teams.length ++ " teams and " ++
      toString d.statuses.length ++ " statuses")]

def Directory.registerRecords (d : Directory) (name : String) : List Record :=
  match d.register name with
  | .error _ => []
  | .ok (grown, user) =>
    (if d.capacity < grown.capacity then
      [directoryRecord .debug ("Userbase grown to " ++ toString grown.capacity ++ " entries")]
    else []) ++
    [directoryRecord .info
      ("Created user " ++ toString user.networkId ++ " (" ++ user.name ++ ")")]

def Directory.updateRecords (d : Directory) (seat : Seat) (status team : Int) : List Record :=
  match d.update seat status team with
  | .error _ => []
  | .ok _ =>
    [directoryRecord .debug
      ("User " ++ toString seat.networkId ++ ": status=" ++ toString status ++ ", team=" ++
        toString team)]

namespace Service

def registerRecords (s : Service) (name : String) (sender : Option Address) : List Record :=
  match s.repeated? sender name with
  | some r =>
    [serviceRecord .info
      ("Repeated registration of " ++ Text.quote name ++ " from " ++ senderShown sender ++
        ", reusing ID " ++ toString r.networkId)]
  | none => s.directory.registerRecords name

def updateRecords (s : Service) (r : Request) : List Record :=
  match s.directory.user? r.networkId with
  | some _ => s.directory.updateRecords (.member r.networkId) r.status.toNat r.team.toNat
  | none => []

def answerRecords (s : Service) (r : Request) (sender : Option Address) : List Record :=
  match r.kind? with
  | some .register => s.registerRecords r.text sender
  | some .updateStatus => s.updateRecords r
  | some .teamStatus | some .description | none => []

def refusalRecords (r : Request) (sender : Option Address) : Except Fault Reply → List Record
  | .ok _ => []
  | .error f =>
    if f.isRefusal then
      [serviceRecord .info
        ("Rejected " ++ r.label ++ " from " ++ senderShown sender ++ ": " ++ f.message)]
    else []

/-- What is told of a datagram. -/
def records (s : Service) (data : Bytes) (sender : Option Address) : List Record :=
  match Request.parse data with
  | .error f =>
    [serviceRecord .warning
      ("Malformed datagram from " ++ senderShown sender ++ ": " ++ f.message)]
  | .ok r =>
    serviceRecord .debug
      ("Extracted client message of type " ++ r.label ++ " from " ++ senderShown sender ++
        " (net_id=" ++ toString r.networkId ++ ", team=" ++ toString r.team.toNat ++
        ", status=" ++ toString r.status.toNat ++ ")") ::
      (s.answerRecords r sender ++ refusalRecords r sender (s.answer r sender).1)

end Service

end TeamPresence
