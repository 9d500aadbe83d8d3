import Mathlib.Logic.ExistsUnique
import TeamPresence.Proofs.Service.History

/-!
# Rosters and records agree

**`consistent_after`**: after any history of a service, each user is under its own network ID with a
valid status and team, sits in exactly one slot if it is on a team and in none if it is not, and
each taken slot shows the current name and status of one of the directory's own users. The rosters
keep the sizes that they were created with.

All of it is read off `Directory.Seated`, which histories keep.
-/

namespace TeamPresence

namespace Directory

/-- Whether a slot is taken under a user's network ID. -/
def Holds (d : Directory) (t i id : Nat) : Prop :=
  ∃ seat, d.occupant? t i = some seat ∧ seat.networkId = id

/-- What the rosters of a directory tell is what its records tell. -/
structure Consistent (d : Directory) (teamCount size : Nat) : Prop where
  networkId : ∀ (i : Nat) (h : i < d.users.size), d.users[i].networkId = i
  status : ∀ u ∈ d.users, 0 ≤ u.status ∧ u.status ≤ 19 ∨ u.status = 0xff
  team : ∀ u ∈ d.users, 0 ≤ u.team ∧ u.team < teamCount ∨ u.team = 0xff
  /-- A user on a team has one slot there, and none elsewhere. -/
  oneSlot : ∀ {id t : Nat} {u : User}, d.users[id]? = some u → u.team = t → t < teamCount →
    (∃! i, d.Holds t i id) ∧ ∀ {t' i : Nat}, d.Holds t' i id → t' = t
  noSlot : ∀ {id : Nat} {u : User}, d.users[id]? = some u → u.team = 0xff →
    ∀ t i : Nat, ¬ d.Holds t i id
  /-- A taken slot shows a user of the directory as its record is now. -/
  shown : ∀ {t i : Nat} {seat : Seat}, d.occupant? t i = some seat →
    ∃ (id : Nat) (u : User) (names : List String) (statuses : List Int),
      seat = .member id ∧ d.users[id]? = some u ∧ d.teamView t = .ok (names, statuses) ∧
        names[i]? = some u.name ∧ statuses[i]? = some u.status
  capacity : d.teams.map (fun team => team.roster.capacity) = List.replicate teamCount size

theorem teamView_natCast {d : Directory} {t : Nat} {team : Team} (h : d.teams[t]? = some team) :
    d.teamView t = .ok ((d.rosterView team).names, (d.rosterView team).statuses) := by
  rw [teamView, if_pos (Int.natCast_nonneg t), Int.toNat_natCast, h]

theorem shown_of_occupant? {d : Directory} {team : Team} {i : Nat} {seat : Seat}
    (h : team.roster.occupant? i = some seat) :
    (d.rosterView team).names[i]? = some (d.record seat).name ∧
      (d.rosterView team).statuses[i]? = some (d.record seat).status := by
  have hslot := Roster.occupant?_eq_some_iff.mp h
  simp only [rosterView, Roster.names, Roster.statuses, Roster.map, List.getElem?_map, hslot,
    Option.map_some, and_self]

namespace Seated

variable {d : Directory}

theorem holds_iff (hd : d.Seated) {t i id : Nat} :
    d.Holds t i id ↔ d.occupant? t i = some (.member id) := by
  constructor
  · rintro ⟨seat, hseat, hid⟩
    obtain ⟨j, u, rfl, -, -⟩ := hd.member hseat
    rw [hseat, Int.ofNat_inj.mp hid]
  · exact fun h => ⟨_, h, rfl⟩

theorem not_holds (hd : d.Seated) {id : Nat} {u : User} (hu : d.users[id]? = some u)
    (hno : u.team = noTeam) (t i : Nat) : ¬ d.Holds t i id := by
  rw [hd.holds_iff]
  intro h
  have hteam := hd.team_of_occupant? hu h
  exact hd.natCast_ne_noTeam (lt_length_of_occupant? h) (hteam.symm.trans hno)

theorem consistent (hd : d.Seated) {size : Nat}
    (hsize : d.teams.map (fun team => team.roster.capacity) =
      List.replicate d.teams.length size) : d.Consistent d.teams.length size := by
  have hproper : ∀ u ∈ d.users, ∃ id, d.Proper id u := fun u hu => by
    obtain ⟨id, h⟩ := Array.getElem?_of_mem hu
    exact ⟨id, hd.proper h⟩
  constructor
  case networkId =>
    exact fun i h => (hd.proper (Array.getElem?_eq_getElem h)).networkId
  case status =>
    intro u hu
    obtain ⟨id, h⟩ := hproper u hu
    exact isValidStatus_iff.mp h.status
  case team =>
    intro u hu
    obtain ⟨id, h⟩ := hproper u hu
    exact isValidTeam_iff.mp h.team
  case oneSlot =>
    intro id t u hu ht hlt
    simp only [hd.holds_iff]
    obtain ⟨i, hi⟩ := hd.slot hu ht hlt
    refine ⟨⟨i, hi, fun j hj => hd.unique hj hi⟩, fun {t' j} hj => ?_⟩
    exact Int.ofNat_inj.mp ((hd.team_of_occupant? hu hj).symm.trans ht)
  case noSlot =>
    intro id u hu hno
    exact hd.not_holds hu hno
  case shown =>
    intro t i seat hseat
    obtain ⟨id, u, rfl, hu, -⟩ := hd.member hseat
    obtain ⟨team, hteam, hocc⟩ := Option.bind_eq_some_iff.mp hseat
    obtain ⟨hname, hstatus⟩ := shown_of_occupant? (d := d) hocc
    rw [record_member hu] at hname hstatus
    exact ⟨id, u, _, _, rfl, hu, teamView_natCast hteam, hname, hstatus⟩
  case capacity => exact hsize

end Seated

end Directory

namespace Service

/-- **After any history the rosters and the records of a service's directory agree.** -/
theorem consistent_after {teams statuses : List String} {size limit memory : Int} {dedupe : Bool}
    {s : Service} (h : host teams statuses size limit dedupe memory = .ok s)
    (l : List Datagram) :
    (s.after l).directory.Consistent teams.length size.toNat := by
  have hreach := ((Reachable.hosted h).after l).directory
  rw [← hreach.length_teams]
  refine hreach.seated.consistent ?_
  rw [hreach.length_teams]
  exact hreach.capacity

theorem consistent_after_crowding :
    ∃ s, host ["Red", "Blue"] ["Busy"] 1 100 true 4 = .ok s ∧
      (s.after crowding).directory.Consistent 2 1 :=
  let ⟨s, h⟩ : ∃ s, host ["Red", "Blue"] ["Busy"] 1 100 true 4 = .ok s := ⟨_, rfl⟩
  ⟨s, h, consistent_after h crowding⟩

end Service

end TeamPresence
