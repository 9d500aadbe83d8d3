import TeamPresence.Program.Screen
import TeamPresence.Session.Records

/-!
# The client program

The client program registers with the server, asks for its teams and statuses, and then takes one
typed line after the other: an option of the menu, or the answer to the question that the option
asks. An answer chooses one of a list of options by its number, counted from one; every other answer
chooses nothing, except one that looks like a number and cannot be read as one, which is a fault. A
fault ends the program, except where moving to a team fails.

* `Menu.start` does all that comes before the first line.
* `Menu.feed` takes a line.
* `Menu.finish` is the end of the lines.
-/

namespace TeamPresence

/-- The option that an answer chooses, counted from zero. White space around it does not matter. -/
def chooseOption (count : Nat) (line : String) : Except Fault (Option Nat) :=
  let answer := Text.strip line
  if !Text.isAllDigits answer then .ok none
  else match Numeral.integer answer with
    | .error why => .error (.choice answer why)
    | .ok n => .ok (if 1 ≤ n ∧ n ≤ count then some (n.toNat - 1) else none)

/-- What the next line answers. -/
inductive Question
  | option
  | status
  | team
deriving Repr, DecidableEq

/-- Where the program stands. -/
inductive Stage
  | asking (q : Question)
  | ended (e : Ending)
deriving Repr, DecidableEq

/-- The state of the client program. -/
structure Menu where
  session : Session
  net : Net
  shown : String := ""
  records : List Record := []
  sent : List Bytes := []
  stage : Stage := .asking .option
deriving DecidableEq

namespace Menu

def record (severity : Severity) (message : String) : Record := ⟨"main_client", severity, message⟩

def print (m : Menu) (text : String) : Menu := { m with shown := m.shown ++ text }

def printLine (m : Menu) (text : String) : Menu := m.print (text ++ "\n")

def tell (m : Menu) (records : List Record) : Menu := { m with records := m.records ++ records }

def stop (m : Menu) (e : Ending) : Menu := { m with stage := .ended e }

def ask (m : Menu) (q : Question) : Menu := { m with stage := .asking q }

def close (m : Menu) : Menu :=
  { m with net := { m.net with link := m.net.link.close } }.tell Session.closeRecords

def fail (m : Menu) (f : Fault) : Menu :=
  let m := m.close
  match f with
  | .sendLimit => m.stop (.fault f)
  | .unanswered _ _ =>
    (m.tell [record .error ("Server did not answer: " ++ f.message)]).stop (.exited 1)
  | .settings _ => (m.tell (refusedSettingsRecords record f)).stop (.exited 1)
  | _ => (m.tell (unexpectedRecords record f)).stop (.exited 1)

/-- The program after a run of its session: refusals are shown as they came in. -/
def took {α : Type} (m : Menu) (r : Run α) (records : List Record) : Menu :=
  { m with
    session := r.session
    net := r.net
    sent := m.sent ++ r.sent
    shown := m.shown ++ String.join (r.refusals.map (· ++ "\n"))
    records := m.records ++ records }

/-- Lets the session make a run, and goes on with what it returns. -/
def perform {α : Type} (m : Menu) (op : Session → Net → Run α)
    (next : Menu → Except Fault α → Menu) : Menu :=
  let r := op m.session m.net
  next (m.took r (m.session.runRecords r)) r.result

/-- Goes on with a value, or ends the program with the fault in its place. -/
def orFail {α : Type} (next : Menu → α → Menu) (m : Menu) : Except Fault α → Menu
  | .ok a => next m a
  | .error f => m.fail f

def offer (m : Menu) : Menu :=
  match Screen.header m.session with
  | .ok text => ((m.print text).print Screen.menu).ask .option
  | .error f => m.fail f

def begin (m : Menu) : Menu :=
  (m.tell [record .info
    ("Now running TeamConnect client with netID " ++ toString m.session.networkId)]).offer

def describe (m : Menu) : Menu :=
  m.perform Session.fetchDescription (orFail fun m _ => m.begin)

def register (m : Menu) (name : String) : Menu :=
  let r := m.session.register name m.net
  orFail (fun m _ => m.describe) (m.took r (m.session.registerRecords name r)) r.result

/-- Takes up the conversation that the settings ask for. A network ID that was assigned earlier is
used without registering again. -/
def connect (c : ClientSettings) (net : Net) : Menu :=
  let session := Session.ofSettings c
  let m : Menu := { session, net := { net with link := net.link.reopen session.manner.timeout } }
  let m := m.tell (record .info
    ("Attempting to connect to server at " ++ c.host ++ ":" ++ toString c.port) ::
      session.openRecords)
  if session.isRegistered then
    { m with session := { session with displayName := some c.displayName } }.describe
  else m.register c.displayName

/-- All that comes before the first line. -/
def start (env : Environment) (net : Net) : Menu :=
  match ClientSettings.load env with
  | .ok c => connect c net
  | .error f =>
    let m : Menu := { session := { manner := ⟨Binary64.one, none⟩ }, net }
    (m.tell (refusedSettingsRecords record f)).stop (.exited 1)

def askStatus (m : Menu) : Menu :=
  (m.print (Screen.options "Type a number to choose a status" m.session.statusNames)).ask .status

def askTeam (m : Menu) : Menu :=
  (m.print (Screen.options "Type a number to choose a team" m.session.teamNames)).ask .team

def setStatus (m : Menu) (status : Nat) : Menu :=
  m.perform (fun s n => s.updateStatus status false n) (orFail fun m _ => m.offer)

/-- Goes on after a move to a team. A refused or unanswered move leaves the user where it was. -/
def moved (name : String) (m : Menu) : Except Fault Unit → Menu
  | .ok () => m.offer
  | .error (.rejected _) =>
    (m.printLine ("Could not join " ++ name ++ ", staying on the current team.")).offer
  | .error (.unanswered _ _) =>
    (m.printLine ("Server did not confirm the move to " ++ name ++
      ", staying on the current team.")).offer
  | .error f => m.fail f

def setTeam (m : Menu) (team : Nat) : Menu :=
  match Screen.entryAt m.session.teamNames team with
  | .error f => m.fail f
  | .ok name => m.perform (fun s n => s.changeTeam team true n) (moved name)

def showTeam (m : Menu) : Menu :=
  if m.session.team = noTeam then
    (m.printLine "You are not on a team. To get team status updates, join a team.").offer
  else
    m.perform (fun s n => s.teamStatus none n) (orFail fun m list =>
      (m.print (Screen.members m.session.statusNames list)).offer)

def quit (m : Menu) : Menu :=
  (m.printLine "Shutting down TeamConnect client...").perform Session.leave (orFail fun m _ =>
    (m.close.printLine "Shutdown complete. Goodbye.").stop .returned)

/-- Takes the answer to a question with numbered options. -/
def answer (m : Menu) (options : List String) (line : String) (next : Menu → Nat → Menu) : Menu :=
  match chooseOption options.length line with
  | .error f => m.fail f
  | .ok (some i) => next m i
  | .ok none => (m.printLine ("Invalid selection: " ++ Text.strip line)).offer

/-- Takes an option of the menu. -/
def choose (m : Menu) (line : String) : Menu :=
  match Text.strip line with
  | "1" => m.askStatus
  | "2" => m.askTeam
  | "3" => m.showTeam
  | "4" => m.quit
  | _ => (m.printLine "Invalid input.").offer

/-- Takes a typed line, with which the count of packets begins anew. -/
def feed (m : Menu) (line : String) : Menu :=
  let fresh := { m with net := { m.net with budget := stepBudget } }
  match m.stage with
  | .asking .option => fresh.choose line
  | .asking .status => fresh.answer m.session.statusNames line setStatus
  | .asking .team => fresh.answer m.session.teamNames line setTeam
  | .ended _ => m

/-- The end of the typed lines. -/
def finish (m : Menu) : Menu :=
  match m.stage with
  | .asking _ => (m.close.tell [record .info "Interrupted by user"]).stop .returned
  | .ended _ => m

/-- The course of the program over all typed lines. -/
def run (env : Environment) (net : Net) (lines : List String) : Menu :=
  (lines.foldl feed (start env net)).finish

/-- The journal of the program: the variable `LOG_LEVEL` names the least severity shown. -/
def journal (env : Environment) : Except Fault (Journal Unit) :=
  Journal.setUp () (env.getOr "LOG_LEVEL" "WARNING")

end Menu

end TeamPresence
