import TeamPresence.Directory.Update
import TeamPresence.Proofs.Directory.Roster
import TeamPresence.Proofs.Outcome

/-!
# What an update does

An update of one of the directory's own users in closed form. `update_member` says which refusal it
meets, or what the directory is afterwards (`moved`); the lemmas on `moved` say it of the records
(`users_moved`), of the slots (`occupant?_moved_of_ne`) and of what stays (`outline_moved`).
-/

namespace TeamPresence.Directory

/-- Who sits in a slot of a team's roster. -/
def occupant? (d : Directory) (t i : Nat) : Option Seat :=
  d.teams[t]?.bind fun team => team.roster.occupant? i

/-- What stays as it is from the start: the names and sizes of the rosters, the statuses, and the
bound on network IDs. -/
def outline (d : Directory) : List (String × Nat) × List String × Int :=
  (d.teams.map fun t => (t.name, t.roster.capacity), d.statuses, d.limit)

theorem teamNames_eq_of_outline {d e : Directory} (h : d.outline = e.outline) :
    d.teamNames = e.teamNames := by
  have hmap := congrArg (fun o => o.1.map Prod.fst) h
  simpa [outline, teamNames, Function.comp_def] using hmap

theorem statuses_eq_of_outline {d e : Directory} (h : d.outline = e.outline) :
    d.statuses = e.statuses :=
  congrArg (fun o => o.2.1) h

theorem length_teams_eq_of_outline {d e : Directory} (h : d.outline = e.outline) :
    d.teams.length = e.teams.length := by
  have hlen := congrArg (fun o => o.1.length) h
  simpa [outline] using hlen

theorem isValidTeam_eq_of_outline {d e : Directory} (h : d.outline = e.outline) (team : Int) :
    d.isValidTeam team = e.isValidTeam team := by
  rw [isValidTeam, isValidTeam, length_teams_eq_of_outline h]

theorem lt_length_of_occupant? {d : Directory} {t i : Nat} {seat : Seat}
    (h : d.occupant? t i = some seat) : t < d.teams.length := by
  obtain ⟨team, hteam, -⟩ := Option.bind_eq_some_iff.mp h
  exact (List.getElem?_eq_some_iff.mp hteam).1

theorem occupant?_eq {d : Directory} {t : Nat} {team : Team} (h : d.teams[t]? = some team)
    (i : Nat) : d.occupant? t i = team.roster.occupant? i := by
  rw [occupant?, h, Option.bind_some]

/-! ### Records -/

theorem user?_natCast (d : Directory) (id : Nat) : d.user? id = d.users[id]? := by
  rw [user?, if_pos (Int.natCast_nonneg id), Int.toNat_natCast]

theorem isValidStatus_iff {status : Int} :
    isValidStatus status = true ↔ 0 ≤ status ∧ status ≤ 19 ∨ status = noStatus := by
  simp only [isValidStatus, Bool.or_eq_true, Bool.and_eq_true, decide_eq_true_eq, beq_iff_eq]
  simp only [maxStatuses]
  omega

theorem isValidTeam_iff {d : Directory} {team : Int} :
    d.isValidTeam team = true ↔ 0 ≤ team ∧ team < d.teams.length ∨ team = noTeam := by
  simp only [isValidTeam, Bool.or_eq_true, Bool.and_eq_true, decide_eq_true_eq, beq_iff_eq]

theorem record_member {d : Directory} {id : Nat} {u : User} (h : d.users[id]? = some u) :
    d.record (.member id) = u := by
  rw [record, h, Option.getD_some]

theorem seat_withState_member (id : Nat) (status team : Int) :
    (Seat.member id).withState status team = .member id := rfl

theorem seat_networkId_member (id : Nat) : (Seat.member id).networkId = id := rfl

/-! ### The closed form -/

theorem update_eq (d : Directory) (seat : Seat) (status team : Int) :
    d.update seat status team =
      if isValidStatus status = false then .error (.status status)
      else if d.isValidTeam team = false then .error (.team (.update team))
      else if team = (d.record seat).team then
        .ok (d.setState seat status team, seat.withState status team)
      else if team ≠ noTeam ∧ d.hasPlaceFor team seat.networkId = false then .error (.teamFull team)
      else
        (d.leave seat (d.record seat).team).map fun left =>
          ((left.join (seat.withState status team) team).setState seat status team,
            seat.withState status team) := by
  rw [update]
  by_cases hstatus : isValidStatus status = true
  · by_cases hvalid : d.isValidTeam team = true
    · by_cases hold : team = (d.record seat).team
      · simp [hstatus, hvalid, ← hold]
      · by_cases hplace : team ≠ noTeam ∧ d.hasPlaceFor team seat.networkId = false
        · simp [hstatus, hvalid, hold, hplace]
        · simp only [hstatus, hvalid, hold, hplace, Bool.not_true, Bool.false_eq_true,
            Bool.not_eq_true', if_false]
          cases d.leave seat (d.record seat).team <;> rfl
    · simp [hstatus, hvalid]
  · simp [hstatus]

def vacate (d : Directory) (seat : Seat) (team : Int) : Directory :=
  if team = noTeam then d else d.modifyRoster team.toNat fun r => r.remove seat.networkId

theorem leave_eq_vacate {d : Directory} {team : Int} (h : d.isValidTeam team = true)
    (seat : Seat) : d.leave seat team = .ok (d.vacate seat team) := by
  rw [leave, vacate]
  by_cases hno : team = noTeam
  · rw [if_pos hno, if_pos hno]
  · have hrange := (isValidTeam_iff.mp h).resolve_right hno
    rw [if_neg hno, if_neg hno, teamPlace?, if_pos hrange]

/-- Why a directory refuses to update a user: for the status, for the team, for want of room. -/
def refusal? (d : Directory) (id : Nat) (old status team : Int) : Option Fault :=
  if isValidStatus status = false then some (.status status)
  else if d.isValidTeam team = false then some (.team (.update team))
  else if team ≠ old ∧ team ≠ noTeam ∧ d.hasPlaceFor team id = false then some (.teamFull team)
  else none

/-- The directory after an update of a user that it accepts. -/
def moved (d : Directory) (id : Nat) (old status team : Int) : Directory :=
  let seat := Seat.member id
  let seated := if team = old then d else (d.vacate seat old).join seat team
  seated.setState seat status team

/-- **An update of a user is refused for the first reason there is, and else carried out.** -/
theorem update_member {d : Directory} {id : Nat} {u : User} (hu : d.users[id]? = some u)
    (hteam : d.isValidTeam u.team = true) (status team : Int) :
    d.update (.member id) status team =
      match d.refusal? id u.team status team with
      | some f => .error f
      | none => .ok (d.moved id u.team status team, .member id) := by
  rw [update_eq, record_member hu, refusal?, leave_eq_vacate hteam]
  by_cases hstatus : isValidStatus status = false
  · rw [if_pos hstatus, if_pos hstatus]
  · by_cases hvalid : d.isValidTeam team = false
    · simp [hstatus, hvalid]
    · by_cases hold : team = u.team
      · simp [hstatus, hteam, hold, moved, seat_withState_member]
      · by_cases hplace : team ≠ noTeam ∧ d.hasPlaceFor team id = false
        · simp [hstatus, hvalid, hold, hplace, seat_networkId_member]
        · simp [hstatus, hvalid, hold, hplace, seat_networkId_member, Except.map, moved,
            seat_withState_member]

/-! ### What no update touches -/

theorem outline_modifyRoster (d : Directory) (k : Nat) {f : Roster Seat → Roster Seat}
    (hf : ∀ r, (f r).capacity = r.capacity) : (d.modifyRoster k f).outline = d.outline := by
  refine Prod.ext (List.ext_getElem? fun t => ?_) rfl
  simp only [outline, modifyRoster, List.getElem?_map, List.getElem?_modify]
  cases d.teams[t]? with
  | none => rfl
  | some team => by_cases htk : k = t <;> simp [htk, hf]

theorem outline_vacate (d : Directory) (seat : Seat) (team : Int) :
    (d.vacate seat team).outline = d.outline := by
  rw [vacate]
  split
  · rfl
  · exact d.outline_modifyRoster _ fun r => r.capacity_remove _

theorem outline_join (d : Directory) (seat : Seat) (team : Int) :
    (d.join seat team).outline = d.outline := by
  rw [join]
  split
  · rfl
  · exact d.outline_modifyRoster _ fun r => r.capacity_add _

theorem outline_setState (d : Directory) (seat : Seat) (status team : Int) :
    (d.setState seat status team).outline = d.outline := by
  cases seat <;> rfl

theorem outline_moved (d : Directory) (id : Nat) (old status team : Int) :
    (d.moved id old status team).outline = d.outline := by
  rw [moved, outline_setState]
  split
  · rfl
  · rw [outline_join, outline_vacate]

/-! ### The records -/

theorem users_vacate (d : Directory) (seat : Seat) (team : Int) :
    (d.vacate seat team).users = d.users := by
  rw [vacate]
  split <;> rfl

theorem users_join (d : Directory) (seat : Seat) (team : Int) :
    (d.join seat team).users = d.users := by
  rw [join]
  split <;> rfl

theorem users_moved (d : Directory) (id : Nat) (old status team : Int) :
    (d.moved id old status team).users = d.users.modify id fun u => { u with status, team } := by
  rw [moved, setState]
  split
  · rfl
  · rw [users_join, users_vacate]

theorem getElem?_users_moved {d : Directory} {id : Nat} {u : User} (hu : d.users[id]? = some u)
    (old status team : Int) (j : Nat) :
    (d.moved id old status team).users[j]? =
      if j = id then some { u with status, team } else d.users[j]? := by
  rw [users_moved, Array.getElem?_modify]
  by_cases hj : j = id
  · rw [if_pos hj.symm, if_pos hj, hj, hu, Option.map_some]
  · rw [if_neg (Ne.symm hj), if_neg hj]

theorem moved_moved (d : Directory) (id : Nat) (old status team : Int) :
    (d.moved id old status team).moved id team status team = d.moved id old status team := by
  have htwice : ∀ users : Array User,
      (users.modify id fun u => { u with status, team }).modify id
        (fun u => { u with status, team }) = users.modify id fun u => { u with status, team } := by
    intro users
    refine Array.ext_getElem? fun j => ?_
    simp only [Array.getElem?_modify]
    by_cases hj : id = j <;> cases users[j]? <;> simp [hj]
  rw [moved, if_pos rfl]
  simp only [moved, setState, htwice]

/-! ### The slots -/

theorem occupant?_modifyRoster (d : Directory) (k : Nat) (f : Roster Seat → Roster Seat)
    (t i : Nat) :
    (d.modifyRoster k f).occupant? t i =
      if t = k then d.teams[t]?.bind fun team => (f team.roster).occupant? i
      else d.occupant? t i := by
  rw [occupant?, modifyRoster, List.getElem?_modify, occupant?]
  by_cases htk : k = t <;> cases d.teams[t]? <;> simp [htk, eq_comm]

theorem occupant?_setState (d : Directory) (seat : Seat) (status team : Int) (t i : Nat) :
    (d.setState seat status team).occupant? t i = d.occupant? t i := by
  cases seat <;> rfl

/-- No network ID sits in two slots of one roster. -/
def Distinct (d : Directory) : Prop :=
  ∀ {t : Nat} {team : Team}, d.teams[t]? = some team → team.roster.Distinct

theorem occupant?_vacate {d : Directory} (hd : d.Distinct) {old : Int}
    (hold : d.isValidTeam old = true) (id t i : Nat) :
    (d.vacate (.member id) old).occupant? t i =
      if (t : Int) = old ∧ old ≠ noTeam then
        (d.occupant? t i).filter fun seat => seat.networkId != (id : Int)
      else d.occupant? t i := by
  rw [vacate]
  by_cases hno : old = noTeam
  · rw [if_pos hno, if_neg fun h => h.2 hno]
  · have hrange := (isValidTeam_iff.mp hold).resolve_right hno
    rw [if_neg hno, occupant?_modifyRoster]
    by_cases ht : (t : Int) = old
    · rw [if_pos (by omega), if_pos ⟨ht, hno⟩, occupant?]
      cases hteam : d.teams[t]? with
      | none => rfl
      | some team => exact Roster.occupant?_remove (hd hteam) id i
    · rw [if_neg (by omega), if_neg fun h => ht h.1]

/-- The slot that a user gets on a team that it joins. -/
def newSlot? (d : Directory) (t id : Nat) : Option Nat :=
  d.teams[t]?.bind fun team => team.roster.seat? (.member id)

theorem occupant?_join {d : Directory} {team : Int} (hteam : d.isValidTeam team = true)
    (id t i : Nat) :
    (d.join (.member id) team).occupant? t i =
      if (t : Int) = team ∧ team ≠ noTeam ∧ d.newSlot? t id = some i then some (.member id)
      else d.occupant? t i := by
  rw [join]
  by_cases hno : team = noTeam
  · rw [if_pos hno, if_neg fun h => h.2.1 hno]
  · have hrange := (isValidTeam_iff.mp hteam).resolve_right hno
    rw [if_neg hno, occupant?_modifyRoster]
    by_cases ht : (t : Int) = team
    · rw [if_pos (by omega)]
      simp only [ht, hno, ne_eq, not_false_eq_true, true_and, newSlot?, occupant?]
      cases hteam : d.teams[t]? with
      | none => rfl
      | some tm =>
        simp only [Option.bind_some]
        cases hseat : tm.roster.seat? (.member id) with
        | none => rw [Roster.add_of_seat?_eq_none hseat, if_neg (by simp)]
        | some k =>
          rw [Roster.occupant?_add hseat]
          simp only [Option.some.injEq, eq_comm]
    · rw [if_neg (by omega), if_neg fun h => ht h.1]

theorem newSlot?_eq_some_iff {d : Directory} {t id k : Nat} :
    d.newSlot? t id = some k ↔
      ∃ team, d.teams[t]? = some team ∧ ¬ team.roster.contains id = true ∧
        team.roster.freeSlot? = some k := by
  simp only [newSlot?, Option.bind_eq_some_iff, Roster.seat?_eq_some_iff]
  rfl

theorem newSlot?_vacate {d : Directory} {t : Nat} {old : Int} (hold : d.isValidTeam old = true)
    (ht : (t : Int) ≠ old) (seat : Seat) (id : Nat) :
    (d.vacate seat old).newSlot? t id = d.newSlot? t id := by
  rw [vacate]
  split
  · rfl
  · have hrange := (isValidTeam_iff.mp hold).resolve_right ‹_›
    rw [newSlot?, modifyRoster, List.getElem?_modify_ne _ _ (by omega), newSlot?]

theorem isValidTeam_vacate (d : Directory) (seat : Seat) (old team : Int) :
    (d.vacate seat old).isValidTeam team = d.isValidTeam team :=
  isValidTeam_eq_of_outline (d.outline_vacate seat old) team

theorem occupant?_moved_of_eq (d : Directory) (id : Nat) {old team : Int} (hteam : team = old)
    (status : Int) (t i : Nat) : (d.moved id old status team).occupant? t i = d.occupant? t i := by
  rw [moved, occupant?_setState, if_pos hteam]

/-- A user who changes teams takes the lowest vacant slot of the new one and vacates its slot of
the old one. No other slot changes. -/
theorem occupant?_moved_of_ne {d : Directory} (hd : d.Distinct) {old team : Int}
    (hold : d.isValidTeam old = true) (hteam : d.isValidTeam team = true) (hne : team ≠ old)
    (id : Nat) (status : Int) (t i : Nat) :
    (d.moved id old status team).occupant? t i =
      if (t : Int) = team ∧ team ≠ noTeam ∧ d.newSlot? t id = some i then some (.member id)
      else if (t : Int) = old ∧ old ≠ noTeam then
        (d.occupant? t i).filter fun seat => seat.networkId != (id : Int)
      else d.occupant? t i := by
  rw [moved, occupant?_setState, if_neg hne,
    occupant?_join ((d.isValidTeam_vacate _ old team).trans hteam), occupant?_vacate hd hold]
  by_cases ht : (t : Int) = team
  · rw [newSlot?_vacate hold (ht ▸ hne)]
  · simp only [ht, false_and, if_false]

end TeamPresence.Directory
