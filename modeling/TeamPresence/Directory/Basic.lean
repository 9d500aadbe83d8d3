import TeamPresence.Directory.Roster
import TeamPresence.Fault

/-!
# The directory

A directory hosts a fixed row of teams and a fixed list of statuses. Users are only ever added; a
user's network ID is the place in the list of users, so it is never used twice. The list has room
for more users than there are, and the next ID is their number (`Directory.row` spells the list out,
with its vacant tail). A roster names its occupants, and their names and statuses are looked up when
the roster is shown.
-/

namespace TeamPresence

/-- What a roster of the directory holds. -/
inductive Seat
  /-- The directory's own user with this network ID. -/
  | member (id : Nat)
  /-- A user record that the directory does not hold, as it was when it took its slot. -/
  | guest (user : User)
deriving Repr, DecidableEq

/-- The network ID of a seat. -/
def Seat.networkId : Seat → Int
  | member id => id
  | guest user => user.networkId

instance : Numbered Seat := ⟨Seat.networkId⟩

/-- A named roster. -/
structure Team where
  name : String
  roster : Roster Seat
deriving Repr, DecidableEq

/-- The teams and users hosted by a server. -/
structure Directory where
  teams : List Team
  statuses : List String
  /-- The first network ID that may not be assigned. -/
  limit : Int
  users : Array User := #[]
  /-- How many users there is room for in the list; it doubles when it is used up. -/
  capacity : Nat := 16
deriving Repr, DecidableEq

namespace Directory

/-- Refuses a list of names with too few or too many. -/
def checkCount (list : NameList) (names : List String) : Except Fault Unit :=
  if 1 ≤ names.length ∧ names.length ≤ list.limit then .ok ()
  else .error (.settings (.directoryCount list names.length))

/-- The first name that is no identifier. -/
def badName? (names : List String) : Option String := names.find? fun n => !isIdentifier n

/-- The directory with the given teams and statuses, and no users. -/
def create (teams statuses : List String) (rosterSize limit : Int) : Except Fault Directory := do
  checkCount .teams teams
  checkCount .statuses statuses
  if let some n := badName? teams then throw (.name (.team n))
  if let some n := badName? statuses then throw (.name (.status n))
  return { teams := teams.map fun n => ⟨n, Roster.vacant rosterSize⟩, statuses, limit }

def userCount (d : Directory) : Nat := d.users.size

def teamNames (d : Directory) : List String := d.teams.map Team.name

def user? (d : Directory) (id : Int) : Option User := if 0 ≤ id then d.users[id.toNat]? else none

/-- Adds a user under the next network ID, on no team and with no status. -/
def register (d : Directory) (name : String) : Except Fault (Directory × User) :=
  if d.limit ≤ d.users.size then .error .usersFull
  else if !isIdentifier name then .error (.name (.user name))
  else
    let user : User := { networkId := d.users.size, name }
    let capacity := if d.capacity ≤ d.users.size then 2 * d.capacity else d.capacity
    .ok ({ d with users := d.users.push user, capacity }, user)

/-- A status code, or the sign for none. -/
def isValidStatus (status : Int) : Bool :=
  (0 ≤ status && status < maxStatuses) || status == noStatus

/-- A team's ID, or the sign for none. -/
def isValidTeam (d : Directory) (team : Int) : Bool :=
  (0 ≤ team && team < d.teams.length) || team == noTeam

def record (d : Directory) : Seat → User
  | .member id => (d.users[id]?).getD { networkId := id, name := "" }
  | .guest user => user

def rosterView (d : Directory) (t : Team) : Roster User := t.roster.map d.record

/-- The names and statuses in the slots of a team's roster. -/
def teamView (d : Directory) (team : Int) : Except Fault (List String × List Int) :=
  match (if 0 ≤ team then d.teams[team.toNat]? else none) with
  | some t => .ok ((d.rosterView t).names, (d.rosterView t).statuses)
  | none => .error (.team (.view team))

/-- The slots of a roster that are taken by the directory's own IDs, in order. -/
def placements (d : Directory) (t : Team) : List (Nat × Int) :=
  t.roster.slots.zipIdx.filterMap fun
    | (some seat, i) => if (d.user? seat.networkId).isSome then some (i, seat.networkId) else none
    | (none, _) => none

end Directory

end TeamPresence
