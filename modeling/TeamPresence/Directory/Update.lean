import TeamPresence.Directory.Basic

/-!
# Updates of status and team

An update records a status and moves a user between rosters. It is refused before anything changes:
first for its status, then for its team, then for want of room. Moving to no team takes the user off
the team it is on; staying on a team keeps the slot.
-/

namespace TeamPresence

/-- A seat with the status and team of its own record replaced. -/
def Seat.withState (status team : Int) : Seat → Seat
  | member id => member id
  | guest user => guest { user with status, team }

namespace Directory

/-- The place of a team in the row of teams; a negative number counts from the end. -/
def teamPlace? (d : Directory) (team : Int) : Option Nat :=
  let count : Int := d.teams.length
  if 0 ≤ team ∧ team < count then some team.toNat
  else if -count ≤ team ∧ team < 0 then some (team + count).toNat
  else none

/-- Whether a team's roster has a slot for a network ID, which may be the one it sits in. -/
def hasPlaceFor (d : Directory) (team id : Int) : Bool :=
  match d.teams[team.toNat]? with
  | some t => t.roster.contains id || t.roster.hasRoom
  | none => true

/-- The directory with one roster changed. -/
def modifyRoster (d : Directory) (i : Nat) (f : Roster Seat → Roster Seat) : Directory :=
  { d with teams := d.teams.modify i fun t => { t with roster := f t.roster } }

/-- The directory after a seat left the roster of a team. -/
def leave (d : Directory) (seat : Seat) (team : Int) : Except Fault Directory :=
  if team = noTeam then .ok d
  else match d.teamPlace? team with
    | some i => .ok (d.modifyRoster i fun r => r.remove seat.networkId)
    | none => .error .noSuchTeam

/-- The directory after a seat joined the roster of a team. -/
def join (d : Directory) (seat : Seat) (team : Int) : Directory :=
  if team = noTeam then d else d.modifyRoster team.toNat fun r => r.add seat

/-- The directory after a status and a team were written into the record of a seat. A record that
the directory does not hold belongs to the caller, who gets the new one back. If it sits in a
roster, the roster goes on showing the status that it joined with, where one that shares the record
with the caller would show the new status. -/
def setState (d : Directory) (seat : Seat) (status team : Int) : Directory :=
  match seat with
  | .member id => { d with users := d.users.modify id fun u => { u with status, team } }
  | .guest _ => d

/-- Records a status and a team for a seat, and moves it. The seat comes back with its record. -/
def update (d : Directory) (seat : Seat) (status team : Int) : Except Fault (Directory × Seat) := do
  if !isValidStatus status then throw (.status status)
  if !d.isValidTeam team then throw (.team (.update team))
  let old := (d.record seat).team
  if team = old then return (d.setState seat status team, seat.withState status team)
  if team ≠ noTeam ∧ !d.hasPlaceFor team seat.networkId then throw (.teamFull team)
  let left ← d.leave seat old
  let joined := left.join (seat.withState status team) team
  return (joined.setState seat status team, seat.withState status team)

end Directory

end TeamPresence
