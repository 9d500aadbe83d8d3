import TeamPresence.Program.Daemon
import TeamPresence.Program.Menu

/-!
# The command line

`server` runs the server program over standard input: each line is a datagram, as a host, a port and
bytes in hexadecimal, and each reply is a line of the same form. `client` runs the client program
over typed lines, against a server of its own that is set up by the server's variables.
-/

namespace TeamPresence.CommandLine

/-- The variables that are read. -/
def keys : List String := [
  "LOG_LEVEL", "SERVER_TEAMS", "SERVER_STATUSES", "SERVER_HOST", "SERVER_PORT",
  "SERVER_DEDUPE_REGISTRATIONS", "CLIENT_DISPLAY_NAME", "CLIENT_SERVER_HOST", "CLIENT_SERVER_PORT",
  "CLIENT_NETWORK_ID", "CLIENT_TIMEOUT", "CLIENT_MAX_ATTEMPTS"]

def datagram? (line : String) : Option Incoming :=
  match splitAtEach ' ' line.toList with
  | [host, port, data] =>
    match Numeral.integer (String.ofList port), Text.bytesOfHex? data with
    | .ok n, some b => some (.datagram b ⟨String.ofList host, n⟩ none)
    | _, _ => none
  | _ => none

def packetLine (p : Address × Bytes) : String :=
  p.1.host ++ " " ++ toString p.1.port ++ " " ++ Text.hexOfBytes p.2

def exitCode : Ending → UInt32
  | .returned => 0
  | .exited code => UInt32.ofNat code
  | .fault _ => 1

def readEnvironment : IO Environment := do
  let mut entries : List (String × String) := []
  for key in keys do
    if let some text ← IO.getEnv key then entries := entries ++ [(key, text)]
  return ⟨entries⟩

/-- The time in a line: milliseconds since some moment. -/
def stamp : IO String := do return toString (← IO.monoMsNow)

def body (line : String) : String :=
  (line.dropEndWhile fun (c : Char) => c == '\n' || c == '\r').toString

partial def readLines (input : IO.FS.Stream) : IO (List String) := do
  let line ← input.getLine
  if line.isEmpty then return []
  return body line :: (← readLines input)

/-- Runs the server program over the datagrams on standard input. -/
def server (env : Environment) : IO UInt32 := do
  match Daemon.journal env with
  | .error f =>
    IO.eprintln f.message
    return 1
  | .ok journal =>
    let incoming := (← readLines (← IO.getStdin)).filterMap datagram?
    let d := Daemon.run env { incoming, signal := 15 }
    for line in journal.lines (← stamp) d.records do IO.eprint line
    for p in d.sent do IO.println (packetLine p)
    return exitCode d.ending

def clientNet (env : Environment) : Net :=
  let service := match ServerSettings.load env >>= Host.create with
    | .ok h => some h.service
    | .error _ => none
  { service, link := { address := ⟨"127.0.0.1", 40000⟩, script := [] } }

/-- Shows and tells what the second state adds to the first. -/
def update (journal : Journal Unit) (old new : Menu) : IO Unit := do
  IO.print (String.ofList (new.shown.toList.drop old.shown.toList.length))
  for line in journal.lines (← stamp) (new.records.drop old.records.length) do IO.eprint line
  (← IO.getStdout).flush

/-- Takes typed lines until the program ends. -/
partial def converse (journal : Journal Unit) (input : IO.FS.Stream) (m : Menu) : IO UInt32 := do
  match m.stage with
  | .ended e => return exitCode e
  | .asking _ =>
    let line ← input.getLine
    let next := if line.isEmpty then m.finish else m.feed (body line)
    update journal m next
    converse journal input next

/-- Runs the client program over typed lines. -/
def client (env : Environment) : IO UInt32 := do
  match Menu.journal env with
  | .error f =>
    IO.eprintln f.message
    return 1
  | .ok journal =>
    let net := clientNet env
    let m := Menu.start env net
    update journal { session := m.session, net } m
    converse journal (← IO.getStdin) m

end TeamPresence.CommandLine

open TeamPresence.CommandLine in
/-- Runs the program that the first argument names. -/
def main (args : List String) : IO UInt32 := do
  let env ← readEnvironment
  match args with
  | ["server"] => server env
  | ["client"] => client env
  | _ =>
    IO.eprintln "usage: server | client"
    return 2
