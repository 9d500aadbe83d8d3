import Mathlib.Logic.Relation
import TeamPresence.Proofs.Directory.Seating

/-!
# Moves

What an update does to a directory, slot by slot, and what it does not do.
**`Reachable.updates_exact`** puts three things together.

* An update that is accepted writes the record of its user. If the team changes, the user vacates
  its slot of the old team and takes the lowest vacant slot of the new one; all else stays
  (`Seated.moves`).
* A user keeps one slot for as long as it stays on a team (`Seated.sits_of_staysOn`).
* An update that is carried out in place, step by step, is refused before it has written anything,
  so that a refusal leaves all as it was (`perform_eq`). That holds of any record of a user, also of
  one that the directory does not hold.
-/

namespace TeamPresence.Directory

/-! ### What is written -/

/-- The directory `d'` is `d` after a user, whose record was `u`, took a status and a team. -/
structure Moves (d d' : Directory) (id : Nat) (u : User) (status team : Int) : Prop where
  record : d'.users[id]? = some { u with status, team }
  others : ∀ {j : Nat}, j ≠ id → d'.users[j]? = d.users[j]?
  outline : d'.outline = d.outline
  capacity : d'.capacity = d.capacity
  stays : team = u.team → d'.teams = d.teams
  /-- The one slot that the user had on the old team is vacant. -/
  vacates : team ≠ u.team → u.team ≠ noTeam → ∃ t i : Nat, u.team = t ∧
    (∀ j, d.occupant? t j = some (.member id) ↔ j = i) ∧ d'.occupant? t i = none
  /-- The one slot that the user has on the new team was the lowest vacant one. -/
  takes : team ≠ u.team → team ≠ noTeam → ∃ (t i : Nat) (tm : Team), team = t ∧
    d.teams[t]? = some tm ∧ i < tm.roster.capacity ∧ d.occupant? t i = none ∧
    (∀ j < i, d.occupant? t j ≠ none) ∧ ∀ j, d'.occupant? t j = some (.member id) ↔ j = i
  /-- No slot changes but the one vacated and the one taken. -/
  frame : ∀ {t i : Nat}, ¬ (u.team = t ∧ d.occupant? t i = some (.member id)) →
    ¬ (team = t ∧ d'.occupant? t i = some (.member id)) → d'.occupant? t i = d.occupant? t i

theorem capacity_moved (d : Directory) (id : Nat) (old status team : Int) :
    (d.moved id old status team).capacity = d.capacity := by
  have hvacate : (d.vacate (.member id) old).capacity = d.capacity := by
    rw [vacate]
    split <;> rfl
  rw [moved, setState]
  split
  · rfl
  · rw [← hvacate, join]
    split <;> rfl

namespace Seated

variable {d d' : Directory} {id : Nat} {u : User} {status team : Int} {seat : Seat}

theorem sits (hd : d.Seated) {t : Nat} (hu : d.users[id]? = some u) (ht : u.team = t)
    (hlt : t < d.teams.length) : ∃ i, ∀ j, d.occupant? t j = some (.member id) ↔ j = i := by
  obtain ⟨i, hi⟩ := hd.slot hu ht hlt
  exact ⟨i, fun j => ⟨fun hj => hd.unique hj hi, fun hj => hj ▸ hi⟩⟩

theorem vacates_moved (hd : d.Seated) (hu : d.users[id]? = some u)
    (hteam : d.isValidTeam team = true) (hne : team ≠ u.team) (hno : u.team ≠ noTeam) :
    ∃ t i : Nat, u.team = t ∧ (∀ j, d.occupant? t j = some (.member id) ↔ j = i) ∧
      (d.moved id u.team status team).occupant? t i = none := by
  obtain ⟨hnonneg, hlt⟩ := (isValidTeam_iff.mp (hd.proper hu).team).resolve_right hno
  obtain ⟨t, ht⟩ := Int.eq_ofNat_of_zero_le hnonneg
  obtain ⟨i, hi⟩ := hd.sits hu ht (by omega)
  refine ⟨t, i, ht, hi, Option.eq_none_iff_forall_ne_some.mpr fun seat hseat => ?_⟩
  rcases (hd.occupant?_moved_eq_some_iff hu hteam hne).mp hseat with
    ⟨-, hnew, -⟩ | ⟨hother, hheld⟩
  · exact hne (hnew.symm.trans ht.symm)
  · exact hother (Option.some.inj (hheld.symm.trans ((hi i).mpr rfl)))

theorem takes_moved (hd : d.Seated) (hu : d.users[id]? = some u)
    (hteam : d.isValidTeam team = true) (hne : team ≠ u.team) (hno : team ≠ noTeam)
    (hplace : d.hasPlaceFor team id = true) :
    ∃ (t i : Nat) (tm : Team), team = t ∧ d.teams[t]? = some tm ∧ i < tm.roster.capacity ∧
      d.occupant? t i = none ∧ (∀ j < i, d.occupant? t j ≠ none) ∧
      ∀ j, (d.moved id u.team status team).occupant? t j = some (.member id) ↔ j = i := by
  obtain ⟨hnonneg, hlt⟩ := (isValidTeam_iff.mp hteam).resolve_right hno
  obtain ⟨t, rfl⟩ := Int.eq_ofNat_of_zero_le hnonneg
  obtain ⟨tm, htm⟩ : ∃ tm, d.teams[t]? = some tm := ⟨_, List.getElem?_eq_getElem (by omega)⟩
  rw [hd.hasPlaceFor_eq hu (Ne.symm hne) htm, ← hd.newSlot?_isSome hu (Ne.symm hne) htm] at hplace
  obtain ⟨i, hi⟩ := Option.isSome_iff_exists.mp hplace
  obtain ⟨tm', htm', -, hfree⟩ := newSlot?_eq_some_iff.mp hi
  obtain rfl : tm' = tm := Option.some.inj (htm'.symm.trans htm)
  obtain ⟨hcap, hvacant, hlower⟩ := Roster.freeSlot?_eq_some_iff.mp hfree
  simp only [← occupant?_eq htm] at hvacant hlower
  refine ⟨t, i, tm', rfl, htm, hcap, hvacant, hlower, fun j => ?_⟩
  rw [hd.occupant?_moved_eq_some_iff hu hteam hne]
  simp [hi, eq_comm]

theorem frame_moved (hd : d.Seated) (hu : d.users[id]? = some u)
    (hteam : d.isValidTeam team = true) {t i : Nat}
    (hbefore : ¬ (u.team = t ∧ d.occupant? t i = some (.member id)))
    (hafter : ¬ (team = t ∧ (d.moved id u.team status team).occupant? t i = some (.member id))) :
    (d.moved id u.team status team).occupant? t i = d.occupant? t i := by
  by_cases heq : team = u.team
  · exact d.occupant?_moved_of_eq id heq status t i
  · have hmoved {seat : Seat} :=
      @occupant?_moved_eq_some_iff d id u status team hd hu hteam heq t i seat
    refine Option.ext fun seat => hmoved.trans ⟨?_, fun hseat => Or.inr ⟨?_, hseat⟩⟩
    · rintro (⟨rfl, ht, hnew⟩ | ⟨-, hseat⟩)
      · exact absurd ⟨ht.symm, hmoved.mpr (Or.inl ⟨rfl, ht, hnew⟩)⟩ hafter
      · exact hseat
    · rintro rfl
      exact hbefore ⟨hd.team_of_occupant? hu hseat, hseat⟩

/-- An update that is accepted writes one record, vacates one slot and takes one. -/
theorem moves (hd : d.Seated) (hu : d.users[id]? = some u)
    (h : d.update (.member id) status team = .ok (d', seat)) : d.Moves d' id u status team := by
  obtain ⟨hnone, rfl, -⟩ := (update_member_eq_ok_iff hu (hd.proper hu).team).mp h
  obtain ⟨-, hteam, hplace⟩ := refusal?_eq_none_iff.mp hnone
  have husers := getElem?_users_moved hu u.team status team
  constructor
  case record => exact (husers id).trans (if_pos rfl)
  case others => exact fun {j} hj => (husers j).trans (if_neg hj)
  case outline => exact d.outline_moved _ _ _ _
  case capacity => exact d.capacity_moved _ _ _ _
  case stays =>
    intro heq
    rw [Directory.moved, if_pos heq, setState]
  case vacates => exact hd.vacates_moved hu hteam
  case takes =>
    intro hne hno
    exact hd.takes_moved hu hteam hne hno ((hplace.resolve_left hne).resolve_left hno)
  case frame => exact hd.frame_moved hu hteam

end Seated

/-! ### Staying on a team -/

/-- The record of a user names one of the directory's teams. -/
def OnTeam (d : Directory) (id t : Nat) : Prop :=
  ∃ u, d.users[id]? = some u ∧ u.team = t ∧ t < d.teams.length

/-- A run of steps throughout which a user is on a team. -/
def StaysOn (id t : Nat) : Directory → Directory → Prop :=
  Relation.ReflTransGen fun d d' => Step d d' ∧ d'.OnTeam id t

theorem Moves.occupant?_of_ne {d d' : Directory} {j id t i : Nat} {v : User} {status team : Int}
    (h : d.Moves d' j v status team) (hd : d.Seated) (hne : id ≠ j)
    (hi : d.occupant? t i = some (.member id)) : d'.occupant? t i = some (.member id) := by
  have hother : d.occupant? t i ≠ some (.member j) := by
    rw [hi]
    exact fun e => hne (Seat.member.inj (Option.some.inj e))
  refine (h.frame (fun e => hother e.2) ?_).trans hi
  rintro ⟨rfl, htaken⟩
  by_cases heq : (t : Int) = v.team
  · rw [occupant?, h.stays heq] at htaken
    exact hother htaken
  · obtain ⟨t', k, tm, ht', -, -, hvacant, -, hk⟩ :=
      h.takes heq (hd.natCast_ne_noTeam (lt_length_of_occupant? hi))
    obtain rfl : t = t' := Int.ofNat_inj.mp ht'
    rw [← (hk i).mp htaken, hi] at hvacant
    cases hvacant

theorem Step.occupant?_of_onTeam {d d' : Directory} (h : Step d d') (hd : d.Seated) {id t i : Nat}
    (hon : d'.OnTeam id t) (hi : d.occupant? t i = some (.member id)) :
    d'.occupant? t i = some (.member id) := by
  cases h with
  | register h =>
    obtain ⟨-, -, -, rfl⟩ := register_eq_ok_iff.mp h
    exact hi
  | @update j v status team seat hv h =>
    have hmoves := hd.moves hv h
    by_cases hid : id = j
    · -- the records of the user before and after the step name one team, so it does not move
      obtain rfl := hid
      obtain ⟨u, hu, hut, -⟩ := hon
      obtain rfl : u = { v with status, team } := Option.some.inj (hu.symm.trans hmoves.record)
      rw [occupant?, hmoves.stays (hut.trans (hd.team_of_occupant? hv hi).symm)]
      exact hi
    · exact hmoves.occupant?_of_ne hd hid hi

/-- A user keeps one slot for as long as it stays on a team. -/
theorem Seated.sits_of_staysOn {d : Directory} (hd : d.Seated) {id t : Nat}
    (hon : d.OnTeam id t) :
    ∃ i, ∀ d', StaysOn id t d d' → ∀ j, d'.occupant? t j = some (.member id) ↔ j = i := by
  obtain ⟨u, hu, ht, hlt⟩ := hon
  obtain ⟨i, hi⟩ := hd.sits hu ht hlt
  refine ⟨i, fun d' hrun => ?_⟩
  -- the run keeps the directory seated, and the user in its slot
  have hkept : d'.Seated ∧ d'.occupant? t i = some (.member id) := by
    induction hrun with
    | refl => exact ⟨hd, (hi i).mpr rfl⟩
    | tail _ hstep ih =>
      exact ⟨hstep.1.seated ih.1, hstep.1.occupant?_of_onTeam ih.1 hstep.2 ih.2⟩
  exact fun j => ⟨fun hj => hkept.1.unique hj hkept.2, fun hj => hj ▸ hkept.2⟩

/-! ### In place -/

/-- Takes the seat off the roster of a team. -/
def vacateInPlace (old : Int) : EStateM Fault (Directory × Seat) Unit := do
  let (d, seat) ← get
  match d.leave seat old with
  | .ok left => set (left, seat)
  | .error f => throw f

/-- Puts the seat on the roster of a team. -/
def joinInPlace (status team : Int) : EStateM Fault (Directory × Seat) Unit :=
  modify fun (d, seat) => (d.join (seat.withState status team) team, seat)

/-- Writes the record of the seat. -/
def recordInPlace (status team : Int) : EStateM Fault (Directory × Seat) Unit :=
  modify fun (d, seat) => (d.setState seat status team, seat.withState status team)

/-- An update that is carried out in place: what one step has written stays written if a later one
fails. -/
def perform (status team : Int) : EStateM Fault (Directory × Seat) Unit := do
  let (d, seat) ← get
  let old := (d.record seat).team
  if !isValidStatus status then throw (.status status)
  if !d.isValidTeam team then throw (.team (.update team))
  if team ≠ old ∧ team ≠ noTeam ∧ !d.hasPlaceFor team seat.networkId then throw (.teamFull team)
  if team ≠ old then
    vacateInPlace old
    joinInPlace status team
  recordInPlace status team

theorem perform_eq (d : Directory) (seat : Seat) (status team : Int) :
    (perform status team).run (d, seat) =
      match d.update seat status team with
      | .ok after => .ok () after
      | .error f => .error f (d, seat) := by
  rw [update]
  by_cases hstatus : isValidStatus status = true
  · by_cases hvalid : d.isValidTeam team = true
    · by_cases hold : team = (d.record seat).team
      · have hheld := hold ▸ hvalid
        simp [perform, recordInPlace, hstatus, hheld, hold]
      · by_cases hplace : team ≠ noTeam ∧ d.hasPlaceFor team seat.networkId = false
        · simp [perform, hstatus, hvalid, hold, hplace]
        · cases hleave : d.leave seat (d.record seat).team <;>
            simp [perform, vacateInPlace, joinInPlace, recordInPlace, hstatus, hvalid, hold,
              hplace, hleave]
    · simp [perform, hstatus, hvalid]
  · simp [perform, hstatus]

/-! ### All three -/

/-- **What an update changes, what it keeps, and that a refused one changes nothing.** -/
theorem Reachable.updates_exact {teams statuses : List String} {size limit : Int} {d : Directory}
    (hd : Reachable teams statuses size limit d) :
    (∀ {id : Int} {u : User} {status team : Int} {d' : Directory} {seat : Seat},
      d.user? id = some u → d.update (.member id.toNat) status team = .ok (d', seat) →
        seat = .member id.toNat ∧ d.Moves d' id.toNat u status team) ∧
    (∀ {id t : Nat}, d.OnTeam id t →
      ∃ i, ∀ d', StaysOn id t d d' → ∀ j, d'.occupant? t j = some (.member id) ↔ j = i) ∧
    ∀ (seat : Seat) (status team : Int),
      (perform status team).run (d, seat) =
        match d.update seat status team with
        | .ok after => .ok () after
        | .error f => .error f (d, seat) := by
  refine ⟨fun {id u status team d' seat} hlookup h => ?_, hd.seated.sits_of_staysOn, perform_eq d⟩
  rw [user?] at hlookup
  split at hlookup
  · obtain ⟨-, -, hseat⟩ :=
      (update_member_eq_ok_iff hlookup (hd.seated.proper hlookup).team).mp h
    exact ⟨hseat, hd.seated.moves hlookup h⟩
  · cases hlookup

/-- Two teams with two slots each. -/
def crew (users : Array User) (red blue : List (Option Seat)) : Directory where
  teams := [⟨"Red", ⟨red⟩⟩, ⟨"Blue", ⟨blue⟩⟩]
  statuses := ["Busy"]
  limit := 100
  users := users

theorem reachable_crew :
    Reachable ["Red", "Blue"] ["Busy"] 2 100
      (crew #[⟨0, "Alice", 0, 0⟩, ⟨1, "Bob", 0, 0⟩] [some (.member 0), some (.member 1)]
        [none, none]) := by
  have hempty : create ["Red", "Blue"] ["Busy"] 2 100 = .ok (crew #[] [none, none] [none, none]) :=
    by decide +kernel
  have halice : (crew #[] [none, none] [none, none]).register "Alice" =
      .ok (crew #[⟨0, "Alice", 255, 255⟩] [none, none] [none, none], ⟨0, "Alice", 255, 255⟩) :=
    by decide +kernel
  have hbob : (crew #[⟨0, "Alice", 255, 255⟩] [none, none] [none, none]).register "Bob" =
      .ok (crew #[⟨0, "Alice", 255, 255⟩, ⟨1, "Bob", 255, 255⟩] [none, none] [none, none],
        ⟨1, "Bob", 255, 255⟩) :=
    by decide +kernel
  have hfirst : (crew #[⟨0, "Alice", 255, 255⟩, ⟨1, "Bob", 255, 255⟩] [none, none]
      [none, none]).update (.member 0) 0 0 =
      .ok (crew #[⟨0, "Alice", 0, 0⟩, ⟨1, "Bob", 255, 255⟩] [some (.member 0), none] [none, none],
        .member 0) :=
    by decide +kernel
  have hsecond : (crew #[⟨0, "Alice", 0, 0⟩, ⟨1, "Bob", 255, 255⟩] [some (.member 0), none]
      [none, none]).update (.member 1) 0 0 =
      .ok (crew #[⟨0, "Alice", 0, 0⟩, ⟨1, "Bob", 0, 0⟩] [some (.member 0), some (.member 1)]
        [none, none], .member 1) :=
    by decide +kernel
  exact ((((Reachable.created hempty).step (.register halice)).step (.register hbob)).step
    (.update rfl hfirst)).step (.update rfl hsecond)

/-- One user leaves for the second team; the other keeps its slot. -/
theorem Reachable.updates_exact_parting :
    let before := crew #[⟨0, "Alice", 0, 0⟩, ⟨1, "Bob", 0, 0⟩]
      [some (.member 0), some (.member 1)] [none, none]
    let after := crew #[⟨0, "Alice", 1, 1⟩, ⟨1, "Bob", 0, 0⟩]
      [none, some (.member 1)] [some (.member 0), none]
    before.Moves after 0 ⟨0, "Alice", 0, 0⟩ 1 1 ∧
      (∃ i, before.occupant? 0 i = some (.member 1) ∧ after.occupant? 0 i = some (.member 1)) ∧
      (perform 1 7).run (before, .member 0) = .error (.team (.update 7)) (before, .member 0) := by
  intro before after
  have hupdate : before.update (.member 0) 1 1 = .ok (after, .member 0) := by decide +kernel
  have hrefused : before.update (.member 0) 1 7 = .error (.team (.update 7)) := by decide +kernel
  obtain ⟨hmoves, hkeeps, hinPlace⟩ := Reachable.updates_exact reachable_crew
  have hlookup : before.user? 0 = some ⟨0, "Alice", 0, 0⟩ := rfl
  obtain ⟨-, hmove⟩ := hmoves hlookup hupdate
  have hon : before.OnTeam 1 0 := ⟨⟨1, "Bob", 0, 0⟩, rfl, rfl, by decide⟩
  have hon' : after.OnTeam 1 0 := ⟨⟨1, "Bob", 0, 0⟩, rfl, rfl, by decide⟩
  obtain ⟨i, hi⟩ := hkeeps hon
  refine ⟨hmove, ⟨i, (hi before .refl i).mpr rfl, (hi after ?_ i).mpr rfl⟩, ?_⟩
  · exact .single ⟨.update hlookup hupdate, hon'⟩
  · rw [hinPlace (.member 0) 1 7, hrefused]

end TeamPresence.Directory
