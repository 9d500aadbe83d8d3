import TeamPresence.Journal.Record
import TeamPresence.Service.Host

/-!
# The server program

The server program reads its settings, binds its endpoint and answers datagrams until a signal asks
it to stop. `Daemon.run` tells the whole course of it from the settings and from what comes in.
-/

namespace TeamPresence

/-- What comes in on the endpoint. -/
inductive Incoming
  /-- A datagram; the reply to it may fail to be sent. -/
  | datagram (data : Bytes) (sender : Address) (failure : Option String)
  | trouble (text : String)
deriving Repr, DecidableEq

/-- What the outside world does to a server program. -/
structure Circumstances where
  bindFailure : Option String := none
  incoming : List Incoming
  /-- Why the endpoint is lost before the signal, if there is a reason. -/
  loss : Option String := none
  signal : Nat
deriving Repr, DecidableEq

/-- The course of a server program. -/
structure Daemon where
  records : List Record
  sent : List (Address × Bytes) := []
  ending : Ending
deriving Repr, DecidableEq

namespace Daemon

def record (severity : Severity) (message : String) : Record := ⟨"main_server", severity, message⟩

/-- What a host sends and tells while it takes in what comes. -/
def serve : Host → List Incoming → List (Address × Bytes) × List Record
  | _, [] => ([], [])
  | h, .trouble text :: rest =>
    let later := serve h rest
    (later.1, Host.troubleRecords text ++ later.2)
  | h, .datagram data sender failure :: rest =>
    let received := h.receive data sender failure
    let later := serve received.2 rest
    (received.1.toList.map (sender, ·) ++ later.1,
      h.receiveRecords data sender failure ++ later.2)

def openingRecords : List Record :=
  [record .info "Starting server application...", record .info "Loading configuration..."]

def settingsRecords (s : ServerSettings) : List Record :=
  [record .info
    ("Configuration loaded: bind=" ++ s.host ++ ":" ++ toString s.port ++ ", teams=" ++
      Text.quoteList s.teams ++ ", statuses=" ++ Text.quoteList s.statuses)]

def readyRecords : List Record :=
  [record .info "Server application started successfully", record .info "Press Ctrl+C to stop"]

def closingRecords (signal : Nat) : List Record :=
  [record .info ("Received signal " ++ toString signal),
    record .info "Shutdown signal received, stopping..."] ++
  Host.stopRecords ++ [record .info "Server application stopped successfully"]

/-- The end of a program that a fault stops. -/
def abort (told : List Record) (f : Fault) : Daemon :=
  match f with
  | .settings _ => ⟨told ++ refusedSettingsRecords record f, [], .exited 1⟩
  | .transport text =>
    ⟨told ++ [record .error ("Could not open server socket: " ++ text)], [], .exited 1⟩
  | _ => ⟨told ++ unexpectedRecords record f, [], .exited 1⟩

/-- The course of a program with a host. -/
def runHost (told : List Record) (h : Host) (c : Circumstances) : Daemon :=
  let told := told ++ h.creationRecords ++ h.startRecords c.bindFailure
  match h.start c.bindFailure with
  | (.error f, _) => abort told f
  | (.ok _, h) =>
    let served := serve h c.incoming
    { records := told ++ readyRecords ++ served.2 ++ Host.lossRecords c.loss ++
        closingRecords c.signal
      sent := served.1
      ending := .exited 0 }

/-- The course of the program. -/
def run (env : Environment) (c : Circumstances) : Daemon :=
  match ServerSettings.load env with
  | .error f => abort openingRecords f
  | .ok settings =>
    let told := openingRecords ++ settingsRecords settings
    match Host.create settings with
    | .error f => abort told f
    | .ok h => runHost told h c

/-- The journal of the program: the variable `LOG_LEVEL` names the least severity shown. -/
def journal (env : Environment) : Except Fault (Journal Unit) :=
  Journal.setUp () (env.getOr "LOG_LEVEL" "INFO")

end Daemon

end TeamPresence
