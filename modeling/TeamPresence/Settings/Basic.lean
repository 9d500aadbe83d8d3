import TeamPresence.Limits
import TeamPresence.Settings.Environment

/-!
# Settings

A server is set up with its teams, statuses and address; a client with its name, the server's
address, and how patient it is. Both are read from an environment and checked before they are taken.
-/

namespace TeamPresence

/-- The port that servers listen on unless told otherwise. -/
def defaultPort : Int := 2000

/-- What a server is set up with. -/
structure ServerSettings where
  teams : List String
  statuses : List String
  host : String := "0.0.0.0"
  port : Int := defaultPort
  /-- Whether a repeated registration gets the network ID of the first. -/
  dedupe : Bool := true
deriving Repr, DecidableEq

/-- What a client is set up with. -/
structure ClientSettings where
  displayName : String
  host : String := "127.0.0.1"
  port : Int := defaultPort
  networkId : Option Int := none
  timeout : Binary64 := Binary64.one
  /-- The packets to send for one request, or no limit. -/
  maxAttempts : Option Int := none
deriving Repr, DecidableEq

/-- Refuses a list with too few names, too many, or one that is no identifier. -/
def checkNames (list : NameList) (names : List String) : Except Fault Unit :=
  if 1 ≤ names.length ∧ names.length ≤ list.limit then
    match names.find? fun n => !isIdentifier n with
    | some n => .error (.settings (.listName list n))
    | none => .ok ()
  else .error (.settings (.listCount list names.length))

/-- Refuses server settings that cannot work. -/
def ServerSettings.check (s : ServerSettings) : Except Fault Unit := do
  checkHost s.host
  checkPort s.port
  checkNames .teams s.teams
  checkNames .statuses s.statuses

/-- Refuses a network ID that no server assigns. -/
def checkAssigned : Option Int → Except Fault Unit
  | some n => if 0 ≤ n ∧ n < noNetworkId then .ok () else .error (.settings (.networkId n))
  | none => .ok ()

/-- Refuses client settings that cannot work. -/
def ClientSettings.check (s : ClientSettings) : Except Fault Unit := do
  if !isIdentifier s.displayName then throw (.settings (.displayName s.displayName))
  checkHost s.host
  checkPort s.port
  checkAssigned s.networkId
  if s.timeout.isNonpositive then throw (.settings .timeout)
  if s.maxAttempts.any (· < 1) then throw (.settings .attempts)

def ServerSettings.load (env : Environment) : Except Fault ServerSettings := do
  match env.nonempty? "SERVER_TEAMS", env.nonempty? "SERVER_STATUSES" with
  | some teams, some statuses =>
    let settings : ServerSettings := {
      teams := readNames teams
      statuses := readNames statuses
      host := env.getOr "SERVER_HOST" "0.0.0.0"
      port := ← readInteger "SERVER_PORT" (env.getOr "SERVER_PORT" (toString defaultPort))
      dedupe := ← readFlag "SERVER_DEDUPE_REGISTRATIONS"
        (env.getOr "SERVER_DEDUPE_REGISTRATIONS" "true") }
    settings.check
    return settings
  | _, _ => throw (.settings .listsRequired)

/-- A whole number from an environment, if its name is set to any text. -/
def Environment.integer? (env : Environment) (key : String) : Except Fault (Option Int) :=
  match env.nonempty? key with
  | some text => some <$> readInteger key text
  | none => .ok none

def ClientSettings.load (env : Environment) : Except Fault ClientSettings := do
  match env.nonempty? "CLIENT_DISPLAY_NAME" with
  | none => throw (.settings .displayNameRequired)
  | some displayName =>
    let timeout ← readNumber "CLIENT_TIMEOUT" (env.getOr "CLIENT_TIMEOUT" "1.0")
    let settings : ClientSettings := {
      displayName
      host := env.getOr "CLIENT_SERVER_HOST" "127.0.0.1"
      port := ← readInteger "CLIENT_SERVER_PORT"
        (env.getOr "CLIENT_SERVER_PORT" (toString defaultPort))
      networkId := ← env.integer? "CLIENT_NETWORK_ID"
      timeout
      maxAttempts := ← env.integer? "CLIENT_MAX_ATTEMPTS" }
    settings.check
    return settings

/-- The settings loaded so far. -/
structure Settings where
  client : Option ClientSettings := none
  server : Option ServerSettings := none
deriving Repr, DecidableEq

/-- Loads server settings; refused ones leave the loaded ones in place. -/
def Settings.loadServer (s : Settings) (env : Environment) :
    Except Fault ServerSettings × Settings :=
  match ServerSettings.load env with
  | .ok loaded => (.ok loaded, { s with server := some loaded })
  | .error f => (.error f, s)

/-- Loads client settings; refused ones leave the loaded ones in place. -/
def Settings.loadClient (s : Settings) (env : Environment) :
    Except Fault ClientSettings × Settings :=
  match ClientSettings.load env with
  | .ok loaded => (.ok loaded, { s with client := some loaded })
  | .error f => (.error f, s)

end TeamPresence
