import TeamPresence.Session.Basic

/-!
# What the client program shows

The texts of the menu: the header with the user's name, team and status, the lists of options, and
the members of a team.
-/

namespace TeamPresence

namespace Screen

def padRight (width : Nat) (s : String) : String :=
  s ++ String.ofList (List.replicate (width - s.toList.length) ' ')

def padLeft (width : Nat) (s : String) : String :=
  String.ofList (List.replicate (width - s.toList.length) ' ') ++ s

def menu : String :=
  "\nType a number to choose an option:\n" ++
    "  [1] Update my status\n  [2] Change my team\n" ++
    "  [3] Get team status update\n  [4] Quit program\n"

/-- What stands in place of a missing name. -/
def nothing : String := "[none]"

/-- The name at a place in a list. -/
def entryAt (names : List String) (place : Int) : Except Fault String :=
  match (if 0 ≤ place then names[place.toNat]? else none) with
  | some name => .ok name
  | none => .error .noSuchEntry

def teamLabel (s : Session) : Except Fault String :=
  if s.team = noTeam then .ok nothing else entryAt s.teamNames s.team

def statusLabel (s : Session) : Except Fault String :=
  if s.status = noStatus then .ok nothing else entryAt s.statusNames s.status

def header (s : Session) : Except Fault String := do
  let team ← teamLabel s
  let status ← statusLabel s
  return String.ofList (List.replicate 59 '=') ++ "\n" ++
    "USER:   " ++ padRight 20 (s.displayName.getD "") ++ " | NET_ID: " ++
      padRight 20 (toString s.networkId) ++ "\n" ++
    "TEAM:   " ++ padRight 20 team ++ " | STATUS: " ++ padRight 20 status ++ "\n"

/-- A title over numbered options, and the sign that asks for an answer. -/
def options (title : String) (names : List String) : String :=
  title ++ "\n" ++
    String.join (names.zipIdx.map fun (name, i) =>
      " " ++ padLeft 4 ("[" ++ toString (i + 1) ++ "]") ++ " " ++ name ++ "\n") ++
    "> "

/-- One line for each member of a team, with the name of the member's status. -/
def members (statusNames : List String) (list : List (String × UInt8)) : String :=
  String.join (list.map fun m =>
    "  " ++ padRight 16 m.1 ++ " - " ++ (statusNames[m.2.toNat]?).getD nothing ++ "\n")

end Screen

end TeamPresence
