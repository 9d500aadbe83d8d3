import TeamPresence.Service.Records
import TeamPresence.Service.Response
import TeamPresence.Settings.Basic

/-!
# Hosts

A host owns a service and the endpoint that datagrams come in on. It answers while the endpoint is
bound; binding it again finds the service as it was left. A reply that cannot be sent is lost, and
the service stays as the datagram left it.
-/

namespace TeamPresence

/-- A service and its endpoint. -/
structure Host where
  settings : ServerSettings
  service : Service
  bound : Option Address := none
deriving DecidableEq

namespace Host

/-- The host of a directory with the teams and statuses of the settings. -/
def create (settings : ServerSettings) : Except Fault Host := do
  let directory ← Directory.create settings.teams settings.statuses defaultRosterSize noNetworkId
  let service ← Service.create directory settings.dedupe defaultMemory
  return { settings, service }

def address (h : Host) : Address := ⟨h.settings.host, h.settings.port⟩

/-- Binds the endpoint, unless that fails. -/
def start (h : Host) (failure : Option String) : Except Fault Address × Host :=
  match failure with
  | some text => (.error (.transport text), h)
  | none => (.ok h.address, { h with bound := some h.address })

def stop (h : Host) : Host := { h with bound := none }

/-- Takes a datagram, and tells what packet is sent back. -/
def receive (h : Host) (data : Bytes) (sender : Address) (failure : Option String) :
    Option Bytes × Host :=
  match h.bound with
  | none => (none, h)
  | some _ =>
    let responded := h.service.respond data sender
    (if failure.isSome then none else responded.1.packet?, { h with service := responded.2 })

def record (severity : Severity) (message : String) : Record := ⟨"server.server", severity, message⟩

def creationRecords (h : Host) : List Record :=
  h.service.directory.creationRecords ++
  [record .info
    ("Server initialized with " ++ toString h.settings.teams.length ++ " teams and " ++
      toString h.settings.statuses.length ++ " statuses")]

def startRecords (h : Host) (failure : Option String) : List Record :=
  record .info ("Starting server on " ++ h.address.brief ++ "...") ::
    match failure with
    | some text => [record .error ("Failed to start server: " ++ text)]
    | none => [record .info ("Successfully set up TeamConnect server on " ++ h.address.brief)]

def stopRecords : List Record :=
  [record .info "Stopping server...", record .info "Server stopped successfully"]

def responseRecords (sender : Address) (failure : Option String) : Response → List Record
  | .broken f =>
    [record .error ("Error handling packet from " ++ sender.shown ++ ": " ++ f.message)]
  | .oversized size =>
    [record .error ("Reply of " ++ toString size ++ " bytes exceeds segment size, dropped")]
  | .reply reply =>
    match failure with
    | some text =>
      [record .warning ("Failed to send reply to " ++ sender.shown ++ ": " ++ text)]
    | none =>
      [record .debug
        ("Sent " ++ toString reply.serialize.length ++ "b packet of type " ++ reply.label ++
          " to " ++ sender.brief)]

def receiveRecords (h : Host) (data : Bytes) (sender : Address) (failure : Option String) :
    List Record :=
  record .debug
    ("Received " ++ toString data.length ++ "b packet from " ++ sender.brief) ::
    (h.service.records data (some sender) ++
      responseRecords sender failure (h.service.respond data sender).1)

def troubleRecords (text : String) : List Record := [record .warning ("Transport error: " ++ text)]

def lossRecords (reason : Option String) : List Record :=
  match reason with
  | some text => [record .warning ("Endpoint closed with error: " ++ text)]
  | none => []

end Host

end TeamPresence
