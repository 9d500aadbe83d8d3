import TeamPresence.Proofs.Directory.Update

/-!
# Seating

Which team a user is on is kept twice: in the user's record and as a slot of the team's roster.
`Seated` says that the two agree. It is stronger than what is asked of a directory in the end: only
the directory's own users sit anywhere, and nobody sits in two slots of a roster. That makes each
step keep it (`Step.seated`), hence every run (`Reachable.seated`).

The steps are those that a service takes: it registers names and updates its own users.
-/

namespace TeamPresence.Directory

/-- What a directory may record of the user under a network ID. -/
structure Proper (d : Directory) (id : Nat) (u : User) : Prop where
  networkId : u.networkId = id
  name : isIdentifier u.name = true
  status : isValidStatus u.status = true
  team : d.isValidTeam u.team = true

/-- The records and the rosters tell the same. -/
structure Seated (d : Directory) : Prop where
  /-- The sign for no team is not the place of a team. -/
  length_teams_le : d.teams.length ≤ maxTeams
  proper : ∀ {id : Nat} {u : User}, d.users[id]? = some u → d.Proper id u
  /-- Who sits in a roster is a user whose record names that team. -/
  member : ∀ {t i : Nat} {seat : Seat}, d.occupant? t i = some seat →
    ∃ (id : Nat) (u : User), seat = .member id ∧ d.users[id]? = some u ∧ u.team = t
  /-- A user whose record names a team sits in its roster. -/
  slot : ∀ {id t : Nat} {u : User}, d.users[id]? = some u → u.team = t → t < d.teams.length →
    ∃ i, d.occupant? t i = some (.member id)
  /-- Nobody sits in two slots of a roster. -/
  unique : ∀ {t i j : Nat} {seat : Seat}, d.occupant? t i = some seat →
    d.occupant? t j = some seat → i = j

namespace Seated

variable {d : Directory}

theorem natCast_ne_noTeam (hd : d.Seated) {t : Nat} (ht : t < d.teams.length) :
    (t : Int) ≠ noTeam := by
  have hle := hd.length_teams_le
  simp only [maxTeams] at hle
  simp only [noTeam]
  omega

theorem team_of_occupant? (hd : d.Seated) {t i id : Nat} {u : User}
    (hu : d.users[id]? = some u) (h : d.occupant? t i = some (.member id)) : u.team = t := by
  obtain ⟨j, v, hj, hv, ht⟩ := hd.member h
  cases hj
  rw [← ht, Option.some.inj (hu.symm.trans hv)]

theorem distinct (hd : d.Seated) : d.Distinct := by
  intro t team hteam i j a b ha hb hab
  rw [← occupant?_eq hteam] at ha hb
  obtain ⟨id, u, rfl, -, -⟩ := hd.member ha
  obtain ⟨id', u', rfl, -, -⟩ := hd.member hb
  obtain rfl : id = id' := Int.ofNat_inj.mp hab
  exact hd.unique ha hb

theorem not_contains (hd : d.Seated) {id t : Nat} {u : User} {team : Team}
    (hu : d.users[id]? = some u) (hne : u.team ≠ t) (hteam : d.teams[t]? = some team) :
    ¬ team.roster.contains id = true := by
  intro hin
  obtain ⟨i, seat, hseat, hid⟩ := Roster.contains_iff.mp hin
  obtain ⟨id', u', rfl, hu', ht⟩ := hd.member ((occupant?_eq hteam i).trans hseat)
  obtain rfl : id' = id := Int.ofNat_inj.mp hid
  obtain rfl : u' = u := Option.some.inj (hu'.symm.trans hu)
  exact hne ht

theorem newSlot?_isSome (hd : d.Seated) {id t : Nat} {u : User} {team : Team}
    (hu : d.users[id]? = some u) (hne : u.team ≠ t) (hteam : d.teams[t]? = some team) :
    (d.newSlot? t id).isSome = team.roster.hasRoom := by
  rw [newSlot?, hteam, Option.bind_some, Roster.seat?,
    if_neg (show ¬ team.roster.contains (Numbered.networkId (Seat.member id)) = true from
      hd.not_contains hu hne hteam), Roster.freeSlot?_isSome]

theorem hasPlaceFor_eq (hd : d.Seated) {id t : Nat} {u : User} {team : Team}
    (hu : d.users[id]? = some u) (hne : u.team ≠ t) (hteam : d.teams[t]? = some team) :
    d.hasPlaceFor t id = team.roster.hasRoom := by
  have hout := hd.not_contains hu hne hteam
  rw [hasPlaceFor, Int.toNat_natCast, hteam]
  simp only [Bool.not_eq_true] at hout
  simp only [hout, Bool.false_or]

end Seated

/-! ### Creating and registering -/

theorem badName?_eq_none_iff {names : List String} :
    badName? names = none ↔ ∀ n ∈ names, isIdentifier n = true := by
  simp [badName?]

theorem create_eq_ok_iff {teams statuses : List String} {size limit : Int} {d : Directory} :
    create teams statuses size limit = .ok d ↔
      (1 ≤ teams.length ∧ teams.length ≤ maxTeams) ∧
      (1 ≤ statuses.length ∧ statuses.length ≤ maxStatuses) ∧
      (∀ n ∈ teams, isIdentifier n = true) ∧ (∀ n ∈ statuses, isIdentifier n = true) ∧
      d = { teams := teams.map fun n => ⟨n, Roster.vacant size⟩, statuses, limit } := by
  rw [← badName?_eq_none_iff, ← badName?_eq_none_iff, create, checkCount, checkCount]
  simp only [NameList.limit]
  by_cases hteams : 1 ≤ teams.length ∧ teams.length ≤ maxTeams
  · by_cases hstatuses : 1 ≤ statuses.length ∧ statuses.length ≤ maxStatuses
    · cases badName? teams <;> cases badName? statuses <;> simp [hteams, hstatuses, eq_comm]
    · simp [hteams, hstatuses]
  · simp [hteams]

theorem occupant?_create {teams statuses : List String} {size limit : Int} {d : Directory}
    (h : create teams statuses size limit = .ok d) (t i : Nat) : d.occupant? t i = none := by
  obtain ⟨-, -, -, -, rfl⟩ := create_eq_ok_iff.mp h
  rw [occupant?, List.getElem?_map]
  cases teams[t]? with
  | none => rfl
  | some name => exact Roster.occupant?_vacant size i

theorem outline_create {teams statuses : List String} {size limit : Int} {d : Directory}
    (h : create teams statuses size limit = .ok d) :
    d.outline = (teams.map fun name => (name, size.toNat), statuses, limit) := by
  obtain ⟨-, -, -, -, rfl⟩ := create_eq_ok_iff.mp h
  simp [outline]

theorem seated_create {teams statuses : List String} {size limit : Int} {d : Directory}
    (h : create teams statuses size limit = .ok d) : d.Seated := by
  have hvacant := occupant?_create h
  obtain ⟨⟨-, hle⟩, -, -, -, rfl⟩ := create_eq_ok_iff.mp h
  constructor
  case length_teams_le => simpa using hle
  case member =>
    intro t i seat hseat
    rw [hvacant] at hseat
    cases hseat
  case unique =>
    intro t i j seat hseat
    rw [hvacant] at hseat
    cases hseat
  -- there are no users yet
  all_goals
    intros
    simp_all

theorem register_eq_ok_iff {d d' : Directory} {name : String} {user : User} :
    d.register name = .ok (d', user) ↔
      (d.users.size : Int) < d.limit ∧ isIdentifier name = true ∧
      user = { networkId := d.users.size, name } ∧
      d' = { d with
        users := d.users.push user
        capacity := if d.capacity ≤ d.users.size then 2 * d.capacity else d.capacity } := by
  rw [register]
  by_cases hfull : d.limit ≤ d.users.size
  · simp [hfull, Int.not_lt.mpr hfull]
  · by_cases hname : isIdentifier name = true
    · simp only [hfull, hname, if_false, Bool.not_true, Bool.false_eq_true, Except.ok.injEq,
        Prod.mk.injEq, true_and, Int.not_le.mp hfull]
      grind
    · simp [hfull, hname]

namespace Seated

variable {d : Directory}

theorem register (hd : d.Seated) {d' : Directory} {name : String} {user : User}
    (h : d.register name = .ok (d', user)) : d'.Seated := by
  obtain ⟨-, hname, huser, rfl⟩ := register_eq_ok_iff.mp h
  -- a record of the new directory is the new one or was there before
  have hcases : ∀ {id : Nat} {u : User}, (d.users.push user)[id]? = some u →
      id = d.users.size ∧ u = user ∨ d.users[id]? = some u := by
    intro id u hu
    rw [Array.getElem?_push] at hu
    split at hu
    · exact Or.inl ⟨‹_›, (Option.some.inj hu).symm⟩
    · exact Or.inr hu
  constructor
  case length_teams_le => exact hd.length_teams_le
  case proper =>
    intro id u hu
    rcases hcases hu with ⟨rfl, rfl⟩ | hu
    · rw [huser]
      exact ⟨rfl, hname, rfl, isValidTeam_iff.mpr (Or.inr rfl)⟩
    · exact ⟨(hd.proper hu).networkId, (hd.proper hu).name, (hd.proper hu).status,
        (hd.proper hu).team⟩
  case member =>
    intro t i seat hseat
    obtain ⟨id, u, rfl, hu, ht⟩ := hd.member hseat
    refine ⟨id, u, rfl, ?_, ht⟩
    have hlt := (Array.getElem?_eq_some_iff.mp hu).1
    rw [← hu]
    exact Array.getElem?_push_lt hlt |>.trans (Array.getElem?_eq_getElem hlt).symm
  case slot =>
    intro id t u hu ht hlt
    rcases hcases hu with ⟨rfl, rfl⟩ | hu
    · rw [huser] at ht
      exact absurd ht.symm (hd.natCast_ne_noTeam hlt)
    · exact hd.slot hu ht hlt
  case unique => exact hd.unique

end Seated

/-! ### Moving -/

theorem refusal?_eq_none_iff {d : Directory} {id : Nat} {old status team : Int} :
    d.refusal? id old status team = none ↔
      isValidStatus status = true ∧ d.isValidTeam team = true ∧
        (team = old ∨ team = noTeam ∨ d.hasPlaceFor team id = true) := by
  rw [refusal?]
  by_cases hstatus : isValidStatus status = true
  · by_cases hteam : d.isValidTeam team = true
    · simp only [hstatus, hteam, Bool.true_eq_false, if_false, true_and, ne_eq]
      by_cases hold : team = old <;> by_cases hno : team = noTeam <;> simp [hold, hno]
    · simp [hstatus, hteam]
  · simp [hstatus]

theorem isRefusal_of_refusal? {d : Directory} {id : Nat} {old status team : Int} {f : Fault}
    (h : d.refusal? id old status team = some f) : f.isRefusal = true := by
  rw [refusal?] at h
  split at h
  · cases h
    rfl
  · split at h
    · cases h
      rfl
    · split at h
      · cases h
        rfl
      · cases h

namespace Seated

variable {d : Directory} {id : Nat} {u : User} {status team : Int}

theorem vacant_of_newSlot? {t k : Nat} (h : d.newSlot? t id = some k) :
    d.occupant? t k = none := by
  obtain ⟨team, hteam, -, hfree⟩ := newSlot?_eq_some_iff.mp h
  rw [occupant?_eq hteam]
  exact (Roster.freeSlot?_eq_some_iff.mp hfree).2.1

theorem occupant?_moved_eq_some_iff (hd : d.Seated) (hu : d.users[id]? = some u)
    (hteam : d.isValidTeam team = true) (hne : team ≠ u.team) {t i : Nat} {seat : Seat} :
    (d.moved id u.team status team).occupant? t i = some seat ↔
      (seat = .member id ∧ (t : Int) = team ∧ d.newSlot? t id = some i) ∨
        (seat ≠ .member id ∧ d.occupant? t i = some seat) := by
  rw [occupant?_moved_of_ne hd.distinct (hd.proper hu).team hteam hne]
  by_cases hnew : d.newSlot? t id = some i
  · have hlt : t < d.teams.length := by
      obtain ⟨tm, htm, -⟩ := newSlot?_eq_some_iff.mp hnew
      exact (List.getElem?_eq_some_iff.mp htm).1
    have hvac := vacant_of_newSlot? hnew
    by_cases ht : (t : Int) = team
    · rw [if_pos ⟨ht, ht ▸ hd.natCast_ne_noTeam hlt, hnew⟩]
      simp [ht, hnew, hvac, eq_comm]
    · simp [ht, hvac]
  · rw [if_neg fun h => hnew h.2.2]
    simp only [hnew, and_false, false_or]
    cases hocc : d.occupant? t i with
    | none => simp
    | some other =>
      obtain ⟨id', u', rfl, hu', ht'⟩ := hd.member hocc
      -- the user sits on its old team only
      by_cases hid : id' = id
      · obtain rfl := hid
        obtain rfl : u' = u := Option.some.inj (hu'.symm.trans hu)
        have hno : u'.team ≠ noTeam := ht' ▸ hd.natCast_ne_noTeam (lt_length_of_occupant? hocc)
        have hgone : (some (Seat.member id')).filter (fun s => s.networkId != (id' : Int)) =
            none := by
          simp [Option.filter_some, seat_networkId_member]
        rw [if_pos ⟨ht'.symm, hno⟩, hgone]
        simp only [reduceCtorEq, false_iff, not_and, Option.some.injEq]
        exact fun hother hsame => hother hsame.symm
      · have hkeep : (Option.some (Seat.member id')).filter (fun s => s.networkId != (id : Int)) =
            some (.member id') := by
          have hcast : (id' : Int) ≠ id := fun e => hid (Int.ofNat_inj.mp e)
          simp [Option.filter_some, seat_networkId_member, hcast]
        rw [hkeep, ite_self]
        simp only [Option.some.injEq, iff_and_self]
        rintro rfl
        simpa using hid

theorem proper_moved (hd : d.Seated) (hu : d.users[id]? = some u)
    (hstatus : isValidStatus status = true) (hteam : d.isValidTeam team = true) {j : Nat} {v : User}
    (hv : (d.moved id u.team status team).users[j]? = some v) :
    (d.moved id u.team status team).Proper j v := by
  have hout := d.outline_moved id u.team status team
  rw [getElem?_users_moved hu] at hv
  split at hv
  · obtain rfl := Option.some.inj hv
    obtain rfl := ‹j = id›
    exact ⟨(hd.proper hu).networkId, (hd.proper hu).name, hstatus,
      (isValidTeam_eq_of_outline hout _).trans hteam⟩
  · exact ⟨(hd.proper hv).networkId, (hd.proper hv).name, (hd.proper hv).status,
      (isValidTeam_eq_of_outline hout _).trans (hd.proper hv).team⟩

theorem moved_of_eq (hd : d.Seated) (hu : d.users[id]? = some u)
    (hstatus : isValidStatus status = true) (hteam : d.isValidTeam team = true)
    (heq : team = u.team) : (d.moved id u.team status team).Seated := by
  have hlen := length_teams_eq_of_outline (d.outline_moved id u.team status team)
  have husers := getElem?_users_moved hu u.team status team
  have hocc := d.occupant?_moved_of_eq id heq status
  refine ⟨hlen ▸ hd.length_teams_le, hd.proper_moved hu hstatus hteam, ?_, ?_, ?_⟩
  · intro t i seat hseat
    obtain ⟨j, v, rfl, hv, ht⟩ := hd.member ((hocc t i).symm.trans hseat)
    by_cases hj : j = id
    · obtain rfl := hj
      obtain rfl : v = u := Option.some.inj (hv.symm.trans hu)
      exact ⟨j, _, rfl, (husers j).trans (if_pos rfl), heq.trans ht⟩
    · exact ⟨j, v, rfl, ((husers j).trans (if_neg hj)).trans hv, ht⟩
  · intro j t v hv ht hlt
    rw [husers] at hv
    rw [hlen] at hlt
    simp only [hocc]
    split at hv
    · obtain rfl := Option.some.inj hv
      obtain rfl := ‹j = id›
      exact hd.slot hu (heq.symm.trans ht) hlt
    · exact hd.slot hv ht hlt
  · intro t i j seat hi hj
    exact hd.unique ((hocc t i).symm.trans hi) ((hocc t j).symm.trans hj)

theorem moved_of_ne (hd : d.Seated) (hu : d.users[id]? = some u)
    (hstatus : isValidStatus status = true) (hteam : d.isValidTeam team = true)
    (hne : team ≠ u.team) (hplace : team = noTeam ∨ d.hasPlaceFor team id = true) :
    (d.moved id u.team status team).Seated := by
  have hlen := length_teams_eq_of_outline (d.outline_moved id u.team status team)
  have husers := getElem?_users_moved hu u.team status team
  have hocc {t i : Nat} {seat : Seat} :=
    @occupant?_moved_eq_some_iff d id u status team hd hu hteam hne t i seat
  refine ⟨hlen ▸ hd.length_teams_le, hd.proper_moved hu hstatus hteam, ?_, ?_, ?_⟩
  · intro t i seat hseat
    rcases hocc.mp hseat with ⟨rfl, ht, -⟩ | ⟨hother, hseat⟩
    · exact ⟨id, _, rfl, (husers id).trans (if_pos rfl), ht.symm⟩
    · obtain ⟨j, v, rfl, hv, ht⟩ := hd.member hseat
      have hj : j ≠ id := fun e => hother (congrArg Seat.member e)
      exact ⟨j, v, rfl, ((husers j).trans (if_neg hj)).trans hv, ht⟩
  · intro j t v hv ht hlt
    rw [husers] at hv
    rw [hlen] at hlt
    simp only [hocc]
    split at hv
    · obtain rfl := Option.some.inj hv
      obtain rfl := ‹j = id›
      obtain rfl : team = t := ht
      obtain ⟨tm, htm⟩ : ∃ tm, d.teams[t]? = some tm := ⟨_, List.getElem?_eq_getElem hlt⟩
      have hroom := hplace.resolve_left (hd.natCast_ne_noTeam hlt)
      rw [hd.hasPlaceFor_eq hu (Ne.symm hne) htm,
        ← hd.newSlot?_isSome hu (Ne.symm hne) htm] at hroom
      obtain ⟨k, hk⟩ := Option.isSome_iff_exists.mp hroom
      exact ⟨k, Or.inl ⟨rfl, rfl, hk⟩⟩
    · obtain ⟨i, hi⟩ := hd.slot hv ht hlt
      exact ⟨i, Or.inr ⟨by simpa using ‹¬ j = id›, hi⟩⟩
  · intro t i j seat hi hj
    rcases hocc.mp hi with ⟨rfl, -, hi⟩ | ⟨hother, hi⟩ <;>
      rcases hocc.mp hj with ⟨hsame, -, hj⟩ | ⟨hother', hj⟩
    · exact Option.some.inj (hi.symm.trans hj)
    · exact absurd rfl hother'
    · exact absurd hsame hother
    · exact hd.unique hi hj

/-- **An update that is not refused keeps records and rosters together.** -/
theorem moved (hd : d.Seated) (hu : d.users[id]? = some u)
    (h : d.refusal? id u.team status team = none) : (d.moved id u.team status team).Seated := by
  obtain ⟨hstatus, hteam, hplace⟩ := refusal?_eq_none_iff.mp h
  by_cases heq : team = u.team
  · exact hd.moved_of_eq hu hstatus hteam heq
  · exact hd.moved_of_ne hu hstatus hteam heq (hplace.resolve_left heq)

end Seated

/-! ### Runs -/

theorem update_member_eq_ok_iff {d d' : Directory} {id : Nat} {u : User} {status team : Int}
    {seat : Seat} (hu : d.users[id]? = some u) (hteam : d.isValidTeam u.team = true) :
    d.update (.member id) status team = .ok (d', seat) ↔
      d.refusal? id u.team status team = none ∧ d' = d.moved id u.team status team ∧
        seat = .member id := by
  rw [update_member hu hteam]
  cases d.refusal? id u.team status team <;> simp [eq_comm]

theorem getElem?_users_register {d d' : Directory} {name : String} {user : User}
    (h : d.register name = .ok (d', user)) {id : Nat} {u : User} (hu : d.users[id]? = some u) :
    d'.users[id]? = some u := by
  obtain ⟨-, -, -, rfl⟩ := register_eq_ok_iff.mp h
  have hlt := (Array.getElem?_eq_some_iff.mp hu).1
  rw [← hu]
  exact (Array.getElem?_push_lt hlt).trans (Array.getElem?_eq_getElem hlt).symm

/-- What a service does to its directory. -/
inductive Step : Directory → Directory → Prop
  | register {d d' : Directory} {name : String} {user : User}
      (h : d.register name = .ok (d', user)) : Step d d'
  | update {d d' : Directory} {id : Nat} {u : User} {status team : Int} {seat : Seat}
      (hu : d.users[id]? = some u) (h : d.update (.member id) status team = .ok (d', seat)) :
      Step d d'

theorem Step.seated {d d' : Directory} (h : Step d d') (hd : d.Seated) : d'.Seated := by
  cases h with
  | register h => exact hd.register h
  | update hu h =>
    obtain ⟨hnone, rfl, -⟩ := (update_member_eq_ok_iff hu (hd.proper hu).team).mp h
    exact hd.moved hu hnone

theorem Step.outline {d d' : Directory} (h : Step d d') (hd : d.Seated) :
    d'.outline = d.outline := by
  cases h with
  | register h =>
    obtain ⟨-, -, -, rfl⟩ := register_eq_ok_iff.mp h
    rfl
  | update hu h =>
    obtain ⟨-, rfl, -⟩ := (update_member_eq_ok_iff hu (hd.proper hu).team).mp h
    exact d.outline_moved _ _ _ _

theorem Step.named {d d' : Directory} (h : Step d d') (hd : d.Seated) {id : Nat} {u : User}
    (hu : d.users[id]? = some u) : ∃ u', d'.users[id]? = some u' ∧ u'.name = u.name := by
  cases h with
  | register h => exact ⟨u, getElem?_users_register h hu, rfl⟩
  | @update j v _ _ _ hv h =>
    obtain ⟨-, rfl, -⟩ := (update_member_eq_ok_iff hv (hd.proper hv).team).mp h
    rw [getElem?_users_moved hv]
    by_cases hid : id = j
    · obtain rfl := hid
      obtain rfl : u = v := Option.some.inj (hu.symm.trans hv)
      exact ⟨_, if_pos rfl, rfl⟩
    · exact ⟨u, (if_neg hid).trans hu, rfl⟩

/-- The directories that come of one with the given names, sizes and bound on network IDs. -/
inductive Reachable (teams statuses : List String) (size limit : Int) : Directory → Prop
  | created {d : Directory} (h : create teams statuses size limit = .ok d) :
      Reachable teams statuses size limit d
  | step {d d' : Directory} (h : Reachable teams statuses size limit d) (next : Step d d') :
      Reachable teams statuses size limit d'

namespace Reachable

variable {teams statuses : List String} {size limit : Int} {d : Directory}

theorem seated (h : Reachable teams statuses size limit d) : d.Seated := by
  induction h with
  | created h => exact seated_create h
  | step _ next ih => exact next.seated ih

theorem outline (h : Reachable teams statuses size limit d) :
    d.outline = (teams.map fun name => (name, size.toNat), statuses, limit) := by
  induction h with
  | created h => exact outline_create h
  | step h next ih => exact (next.outline h.seated).trans ih

theorem length_teams (h : Reachable teams statuses size limit d) :
    d.teams.length = teams.length := by
  have hlen := congrArg (fun o => o.1.length) h.outline
  simpa [Directory.outline] using hlen

theorem teamNames_eq (h : Reachable teams statuses size limit d) : d.teamNames = teams := by
  have hmap := congrArg (fun o => o.1.map Prod.fst) h.outline
  simpa [Directory.outline, Directory.teamNames, Function.comp_def] using hmap

theorem statuses_eq (h : Reachable teams statuses size limit d) : d.statuses = statuses :=
  congrArg (fun o => o.2.1) h.outline

theorem capacity (h : Reachable teams statuses size limit d) :
    d.teams.map (fun team => team.roster.capacity) =
      List.replicate teams.length size.toNat := by
  have hmap := congrArg (fun o => o.1.map Prod.snd) h.outline
  simpa [Directory.outline, Function.comp_def, List.map_const'] using hmap

end Reachable

end TeamPresence.Directory
