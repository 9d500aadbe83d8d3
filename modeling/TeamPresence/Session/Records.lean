import TeamPresence.Journal.Record
import TeamPresence.Number.Shortest
import TeamPresence.Session.Basic

/-!
# What a session tells

The records of an operation are read off its exchange. The operation does not depend on them.
-/

namespace TeamPresence

def sessionRecord (severity : Severity) (message : String) : Record :=
  ⟨"client.session", severity, message⟩

/-- What is told of the end of an attempt. -/
def Verdict.records (timeout : Binary64) : Verdict → List Record
  | silence =>
    [sessionRecord .debug ("No reply within " ++ timeout.text ++ "s, resending")]
  | garbage why => [sessionRecord .warning ("Discarding malformed reply: " ++ why.message)]
  | reply _ => []
  | refusal r => [sessionRecord .warning ("Server error: " ++ r.text)]
  | stray r => [sessionRecord .debug ("Ignoring unexpected " ++ r.label ++ " reply")]

namespace Exchange

/-- What is told of the attempt after `made` others. -/
def attemptRecords (x : Exchange) (timeout : Binary64) (made : Nat) (a : Attempt) : List Record :=
  (match a.failure with
    | some text => [sessionRecord .debug ("Send failed, will retry: " ++ text)]
    | none => []) ++
  sessionRecord .debug
    ("Sent " ++ RequestKind.labelOf x.ask.code ++ " (attempt " ++ toString (made + 1) ++ ")") ::
    (x.verdict a).records timeout

def records (x : Exchange) (timeout : Binary64) : List Record :=
  x.attempts.zipIdx.flatMap fun (a, made) => x.attemptRecords timeout made a

end Exchange

namespace Session

def openRecords (s : Session) : List Record :=
  [sessionRecord .info
    ("Client endpoint open, server at " ++ s.host ++ ":" ++ toString s.port)]

def closeRecords : List Record := [sessionRecord .debug "Client endpoint closed"]

def runRecords {α : Type} (s : Session) (r : Run α) : List Record :=
  (r.exchange.map fun x => x.records s.manner.timeout).getD []

def registerRecords (s : Session) (name : String) (r : Run Int) : List Record :=
  s.runRecords r ++
    match r.result with
    | .ok id =>
      [sessionRecord .info
        ("Registered as " ++ Text.quote name ++ " with network ID " ++ toString id)]
    | .error _ => []

end Session

end TeamPresence
