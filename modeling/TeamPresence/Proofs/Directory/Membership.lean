import Mathlib.Data.List.Nodup
import Mathlib.Data.List.Perm.Basic
import TeamPresence.Proofs.Directory.Seating

/-!
# Members of a team

The occupants of a roster are, in some order, the users whose records name the team
(`Seated.members_perm`). So whether a roster has room can be told by counting records
(`Seated.hasRoom_iff`), and what its slots show is those records and vacant slots
(`Seated.shown_perm`).
-/

namespace TeamPresence.Directory

/-- The users whose records name a team. -/
def usersOf (d : Directory) (t : Nat) : List User :=
  d.users.toList.filter fun u => u.team == t

/-- What the slots of a team's roster show. -/
def shown (d : Directory) (team : Team) : List (String × Int) :=
  (d.rosterView team).names.zip (d.rosterView team).statuses

theorem shown_eq (d : Directory) (team : Team) :
    d.shown team = team.roster.slots.map fun
      | some seat => ((d.record seat).name, (d.record seat).status)
      | none => ("", noStatus) := by
  rw [shown, rosterView, Roster.names, Roster.statuses, List.zip_map', Roster.map, List.map_map]
  refine List.map_congr_left fun o _ => ?_
  cases o <;> rfl

namespace Seated

variable {d : Directory} {t : Nat} {team : Team}

theorem nodup_users (hd : d.Seated) : d.users.toList.Nodup := by
  rw [List.Nodup, List.pairwise_iff_getElem]
  intro i j hi hj hij e
  have hi' := (hd.proper (Array.getElem?_eq_getElem (by simpa using hi))).networkId
  have hj' := (hd.proper (Array.getElem?_eq_getElem (by simpa using hj))).networkId
  rw [Array.getElem_toList, Array.getElem_toList] at e
  rw [e, hj'] at hi'
  omega

theorem nodup_members (hd : d.Seated) (ht : d.teams[t]? = some team) :
    team.roster.members.Nodup := by
  rw [Roster.members, List.Nodup, List.pairwise_filterMap, List.pairwise_iff_getElem]
  intro i j hi hj hij a ha b hb e
  have hi' : d.occupant? t i = some a := by
    rw [occupant?_eq ht, Roster.occupant?_eq_some_iff, List.getElem?_eq_getElem hi]
    exact congrArg some ha
  have hj' : d.occupant? t j = some b := by
    rw [occupant?_eq ht, Roster.occupant?_eq_some_iff, List.getElem?_eq_getElem hj]
    exact congrArg some hb
  have hsame := hd.unique hi' (e ▸ hj')
  omega

theorem mem_members_iff (hd : d.Seated) (ht : d.teams[t]? = some team) {seat : Seat} :
    seat ∈ team.roster.members ↔
      ∃ (id : Nat) (u : User), seat = .member id ∧ d.users[id]? = some u ∧ u.team = t := by
  simp only [Roster.mem_members_iff, ← occupant?_eq ht]
  constructor
  · rintro ⟨i, hi⟩
    exact hd.member hi
  · rintro ⟨id, u, rfl, hu, hut⟩
    exact hd.slot hu hut (List.getElem?_eq_some_iff.mp ht).1

/-- **The members of a roster are the users whose records name the team.** -/
theorem members_perm (hd : d.Seated) (ht : d.teams[t]? = some team) :
    (team.roster.members.map d.record).Perm (d.usersOf t) := by
  have hrecord : ∀ seat ∈ team.roster.members, (d.record seat).networkId = seat.networkId := by
    intro seat hseat
    obtain ⟨id, u, rfl, hu, -⟩ := (hd.mem_members_iff ht).mp hseat
    rw [record_member hu]
    exact (hd.proper hu).networkId
  refine (List.perm_ext_iff_of_nodup ?_ (hd.nodup_users.filter _)).mpr fun v => ?_
  · refine List.Nodup.map_on ?_ (hd.nodup_members ht)
    intro a ha b hb e
    have hid := (hrecord a ha).symm.trans ((congrArg User.networkId e).trans (hrecord b hb))
    obtain ⟨i, -, rfl, -⟩ := (hd.mem_members_iff ht).mp ha
    obtain ⟨j, -, rfl, -⟩ := (hd.mem_members_iff ht).mp hb
    exact congrArg Seat.member (Int.ofNat_inj.mp hid)
  · rw [List.mem_map, List.mem_filter, beq_iff_eq]
    simp only [hd.mem_members_iff ht]
    constructor
    · rintro ⟨seat, ⟨id, u, rfl, hu, hut⟩, rfl⟩
      rw [record_member hu]
      exact ⟨Array.mem_toList_iff.mpr (Array.mem_of_getElem? hu), hut⟩
    · rintro ⟨hv, hvt⟩
      obtain ⟨id, hid⟩ := Array.getElem?_of_mem (Array.mem_toList_iff.mp hv)
      exact ⟨.member id, ⟨id, v, rfl, hid, hvt⟩, record_member hid⟩

theorem hasRoom_iff (hd : d.Seated) (ht : d.teams[t]? = some team) :
    team.roster.hasRoom = true ↔ (d.usersOf t).length < team.roster.capacity := by
  rw [Roster.hasRoom_iff_length_members_lt, ← (hd.members_perm ht).length_eq, List.length_map]

end Seated

theorem slots_perm {β : Type} (l : List (Option Seat)) (f : Seat → β) (vacant : β) :
    (l.map fun | some seat => f seat | none => vacant).Perm
      ((l.filterMap id).map f ++
        List.replicate (l.length - (l.filterMap id).length) vacant) := by
  induction l with
  | nil => exact List.Perm.refl _
  | cons o rest ih =>
    have hle := List.length_filterMap_le id rest
    cases o with
    | some seat =>
      simp only [List.map_cons, List.filterMap_cons, id_eq, List.length_cons, List.cons_append,
        Nat.add_sub_add_right]
      exact ih.cons _
    | none =>
      have hcount : rest.length + 1 - (rest.filterMap id).length =
          rest.length - (rest.filterMap id).length + 1 := by omega
      rw [List.map_cons, List.filterMap_cons_none rfl, List.length_cons, hcount,
        List.replicate_succ]
      exact (ih.cons _).trans List.perm_middle.symm

theorem Seated.shown_perm {d : Directory} (hd : d.Seated) {t : Nat} {team : Team}
    (ht : d.teams[t]? = some team) :
    (d.shown team).Perm
      ((d.usersOf t).map (fun u => (u.name, u.status)) ++
        List.replicate (team.roster.capacity - (d.usersOf t).length) ("", noStatus)) := by
  have hmembers := hd.members_perm ht
  rw [shown_eq, ← hmembers.length_eq, List.length_map]
  refine (slots_perm _ (fun seat => ((d.record seat).name, (d.record seat).status)) _).trans
    (List.Perm.append_right _ ?_)
  rw [← Function.comp_def (fun u : User => (u.name, u.status)) d.record, ← List.map_map]
  exact hmembers.map _

end TeamPresence.Directory
