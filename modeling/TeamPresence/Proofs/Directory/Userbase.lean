import Mathlib.Algebra.Group.Nat.Defs
import Mathlib.Order.Bounds.Basic
import TeamPresence.Proofs.Directory.Seating

/-!
# The users of a directory

Let a directory be created and be called any number of times: to register names, whatever they are,
and to update records, its own or others, whether the calls are refused or not.

**`userbase_exact`**: it registers a name as long as it has fewer users than it may have, if the
name is an identifier; the users that it made are numbered from zero in the order of the calls, and
each is found under its number with the name and the number that it was given; and there is room for
`16 * 2 ^ j` users with the least `j` that suffices.

**`row_exact`**: the users and the room for them are a list with a vacant tail, in which each place
that is written or looked up exists.

One call keeps the userbase (`Userbase.call`), hence so does a run (`Userbase.run`). A capacity that
doubles only when it is used up is less than twice the number of users, and so the least
(`Userbase.isLeast`).
-/

namespace TeamPresence

/-! ### Lists with a vacant tail -/

/-- A list of users with a vacant tail, and the network ID that is given next. -/
structure Row where
  places : List (Option User)
  next : Nat
deriving Repr, DecidableEq

namespace Row

/-- The row without users. -/
def vacant : Row := ⟨List.replicate 16 none, 0⟩

/-- The row with twice as many places, if all of them are used up. -/
def grow (r : Row) : Row :=
  if r.places.length ≤ r.next then
    { r with places := r.places ++ List.replicate r.places.length none }
  else r

/-- Puts a user in the next place, if the row is as long as that. -/
def put? (r : Row) (user : User) : Option Row :=
  if r.next < r.places.length then some ⟨r.places.set r.next (some user), r.next + 1⟩ else none

/-- Registers a name in the row. There is no outcome where the row is too short for it. -/
def register? (r : Row) (limit : Int) (name : String) : Option (Except Fault (Row × User)) :=
  if limit ≤ r.next then some (.error .usersFull)
  else if !isIdentifier name then some (.error (.name (.user name)))
  else
    let user : User := { networkId := r.next, name }
    (r.grow.put? user).map fun r' => .ok (r', user)

/-- Writes a status and a team into the place of a seat, if it has one. -/
def setState (r : Row) (status team : Int) : Seat → Row
  | .member id =>
    { r with places := r.places.modify id (Option.map fun u => { u with status, team }) }
  | .guest _ => r

def user? (r : Row) (id : Int) : Option User :=
  if id < 0 ∨ (r.next : Int) ≤ id then none else r.places[id.toNat]?.join

end Row

namespace Directory

/-! ### Calls -/

/-- A call of a directory. -/
inductive Call
  | register (name : String)
  | update (seat : Seat) (status team : Int)
deriving Repr, DecidableEq

/-- The directory after a call, and the registration if one was accepted: the name that was asked
for and the record that came back. What is refused changes nothing. -/
def call (d : Directory) : Call → Directory × List (String × User)
  | .register name =>
    match d.register name with
    | .ok (d', user) => (d', [(name, user)])
    | .error _ => (d, [])
  | .update seat status team =>
    match d.update seat status team with
    | .ok (d', _) => (d', [])
    | .error _ => (d, [])

/-- The directory after calls, one after the other, and the registrations that were accepted. -/
def run (d : Directory) : List Call → Directory × List (String × User)
  | [] => (d, [])
  | c :: calls => (((d.call c).1.run calls).1, (d.call c).2 ++ ((d.call c).1.run calls).2)

/-! ### What an update leaves alone -/

/-- The users, how many there may be and how many there is room for. -/
def base (d : Directory) : Array User × Int × Nat := (d.users, d.limit, d.capacity)

theorem base_leave {d d' : Directory} {seat : Seat} {team : Int} (h : d.leave seat team = .ok d') :
    d'.base = d.base := by
  unfold leave at h
  split at h
  · obtain rfl := Except.ok.inj h
    rfl
  · split at h
    · obtain rfl := Except.ok.inj h
      rfl
    · cases h

theorem base_join (d : Directory) (seat : Seat) (team : Int) :
    (d.join seat team).base = d.base := by
  unfold join
  split <;> rfl

theorem base_setState {d e : Directory} (h : d.base = e.base) (seat : Seat) (status team : Int) :
    (d.setState seat status team).base = (e.setState seat status team).base := by
  obtain ⟨husers, hlimit, hcapacity⟩ := Prod.ext_iff.mp h |>.imp_right Prod.ext_iff.mp
  cases seat with
  | member id => simp_all [base, setState]
  | guest user => exact h

theorem base_update {d d' : Directory} {seat seat' : Seat} {status team : Int}
    (h : d.update seat status team = .ok (d', seat')) :
    d'.base = (d.setState seat status team).base := by
  rw [update_eq] at h
  split_ifs at h with hstatus hvalid hold hplace
  · obtain ⟨rfl, -⟩ := Prod.mk.inj (Except.ok.inj h)
    rfl
  · cases hleave : d.leave seat (d.record seat).team with
    | error f =>
      rw [hleave] at h
      cases h
    | ok left =>
      rw [hleave] at h
      obtain ⟨rfl, -⟩ := Prod.mk.inj (Except.ok.inj h)
      exact base_setState ((base_join _ _ _).trans (base_leave hleave)) seat status team

/-! ### The list of users -/

/-- The users in a list with a vacant tail, which is as long as there is room. -/
def row (d : Directory) : Row :=
  ⟨d.users.toList.map some ++ List.replicate (d.capacity - d.users.size) none, d.users.size⟩

theorem length_places_row {d : Directory} (h : d.users.size ≤ d.capacity) :
    d.row.places.length = d.capacity := by
  simp [row, h]

theorem take_places_row (d : Directory) :
    d.row.places.take d.row.next = d.users.toList.map some := by
  simp [row]

theorem user?_row (d : Directory) (id : Int) : d.row.user? id = d.user? id := by
  unfold Row.user? user?
  by_cases hid : 0 ≤ id
  · rw [if_pos hid]
    by_cases hlt : id.toNat < d.users.size
    · rw [if_neg (by simp only [row]; omega)]
      simp [row, List.getElem?_append, hlt]
    · rw [if_pos (by simp only [row]; omega), Array.getElem?_eq_none (by omega)]
  · rw [if_neg hid, if_pos (by omega)]

theorem grow_row {d : Directory} (hroom : d.users.size ≤ d.capacity) :
    d.row.grow = row { d with
      capacity := if d.capacity ≤ d.users.size then 2 * d.capacity else d.capacity } := by
  unfold Row.grow
  rw [length_places_row hroom]
  by_cases hused : d.capacity ≤ d.users.size
  · have htwice : 2 * d.capacity - d.users.size = d.capacity - d.users.size + d.capacity := by omega
    simp [row, hused, htwice]
  · simp [row, hused]

theorem put?_row {d : Directory} (hroom : d.users.size < d.capacity) (u : User) :
    d.row.put? u = some (row { d with users := d.users.push u }) := by
  have htail : d.capacity - d.users.size = d.capacity - (d.users.size + 1) + 1 := by omega
  unfold Row.put?
  rw [length_places_row hroom.le, show d.row.next = d.users.size from rfl, if_pos hroom]
  simp [row, htail, List.replicate_succ]

/-- The row registers what the directory does, and each new user gets a place in it. -/
theorem register?_row {d : Directory} (hroom : d.users.size ≤ d.capacity) (hpos : 0 < d.capacity)
    (name : String) :
    d.row.register? d.limit name =
      some ((d.register name).map fun made => (made.1.row, made.2)) := by
  have hnext : d.row.next = d.users.size := rfl
  unfold Row.register? register
  simp only [hnext]
  by_cases hfull : d.limit ≤ d.users.size
  · rw [if_pos hfull, if_pos hfull]
    rfl
  · rw [if_neg hfull, if_neg hfull]
    by_cases hname : isIdentifier name = true
    · rw [hname, if_neg (by simp), if_neg (by simp), grow_row hroom, put?_row]
      · rfl
      · show d.users.size < if d.capacity ≤ d.users.size then 2 * d.capacity else d.capacity
        split <;> omega
    · rw [if_pos (by simp [hname]), if_pos (by simp [hname])]
      rfl
theorem modify_append_replicate (users : List User) (id n : Nat) (f : User → User) :
    (users.map some ++ List.replicate n none).modify id (Option.map f) =
      (users.modify id f).map some ++ List.replicate n none := by
  apply List.ext_getElem?
  intro i
  rw [List.getElem?_modify]
  by_cases hi : i < users.length
  · rw [List.getElem?_append_left (by simpa), List.getElem?_append_left (by simpa),
      List.getElem?_map, List.getElem?_map, List.getElem?_modify, List.getElem?_eq_getElem hi]
    split <;> rfl
  · rw [List.getElem?_append_right (by simpa using hi),
      List.getElem?_append_right (by simpa using hi), List.length_map, List.length_map,
      List.length_modify, List.getElem?_replicate]
    split <;> split <;> rfl

theorem row_update {d d' : Directory} {seat seat' : Seat} {status team : Int}
    (h : d.update seat status team = .ok (d', seat')) :
    d'.row = d.row.setState status team seat := by
  have hbase := base_update h
  simp only [base, Prod.mk.injEq] at hbase
  obtain ⟨husers, -, hcapacity⟩ := hbase
  rw [row, husers, hcapacity]
  cases seat with
  | guest user => rfl
  | member id =>
    simp only [setState, row, Row.setState, Array.size_modify, Array.toList_modify,
      modify_append_replicate]

/-! ### The users and the room for them -/

/-- What a user is told by: its network ID and its name. -/
def identity (u : User) : Int × String := (u.networkId, u.name)

theorem identity_setState (d : Directory) (seat : Seat) (status team : Int) :
    (d.setState seat status team).users.map identity = d.users.map identity := by
  cases seat with
  | guest user => rfl
  | member id =>
    show (d.users.modify id fun u => { u with status, team }).map identity = d.users.map identity
    apply Array.ext_getElem?
    intro i
    rw [Array.getElem?_map, Array.getElem?_map, Array.getElem?_modify]
    split
    · cases d.users[i]? <;> rfl
    · rfl

/-- The users of a directory that came to be by registrations, and the room for them. -/
structure Userbase (limit : Int) (given : List (String × User)) (d : Directory) : Prop where
  limit : d.limit = limit
  /-- A registration gives the name that is asked for and the ID that is next. -/
  numbered : ∀ {k : Nat} {name : String} {u : User}, given[k]? = some (name, u) →
    u = { networkId := k, name, status := noStatus, team := noTeam }
  kept : d.users.map identity = (given.map fun g => identity g.2).toArray
  doubled : ∃ j, d.capacity = 16 * 2 ^ j
  room : d.users.size ≤ d.capacity
  /-- The room was doubled for want of it only. -/
  needed : d.capacity = 16 ∨ d.capacity < 2 * d.users.size

theorem userbase_create {teams statuses : List String} {size limit : Int} {d : Directory}
    (h : create teams statuses size limit = .ok d) : Userbase limit [] d := by
  obtain ⟨-, -, -, -, rfl⟩ := create_eq_ok_iff.mp h
  constructor
  case limit => rfl
  case numbered =>
    intro k name u hk
    cases hk
  case kept => exact Array.map_empty
  case doubled => exact ⟨0, rfl⟩
  case room => exact Nat.zero_le 16
  case needed => exact Or.inl rfl

namespace Userbase

variable {limit : Int} {given : List (String × User)} {d d' : Directory}

theorem size_eq (h : Userbase limit given d) : d.users.size = given.length := by
  have hsize := congrArg Array.size h.kept
  simpa using hsize

/-- There is room for the least number of users that suffices. -/
theorem isLeast (h : Userbase limit given d) :
    IsLeast {c | (∃ j, c = 16 * 2 ^ j) ∧ d.users.size ≤ c} d.capacity := by
  refine ⟨⟨h.doubled, h.room⟩, ?_⟩
  rintro c ⟨⟨i, rfl⟩, hsize⟩
  obtain ⟨j, hj⟩ := h.doubled
  rcases h.needed with hfirst | hneeded
  · rw [hfirst]
    exact Nat.le_mul_of_pos_right 16 (Nat.two_pow_pos i)
  · have hpower : 2 ^ j < 2 ^ (i + 1) := by
      rw [Nat.pow_succ]
      omega
    have hle : j ≤ i := Nat.lt_succ_iff.mp ((Nat.pow_lt_pow_iff_right (by decide)).mp hpower)
    rw [hj]
    exact Nat.mul_le_mul_left 16 (Nat.pow_le_pow_right (by decide) hle)

theorem user?_eq (h : Userbase limit given d) {n : Int} :
    (d.user? n).map identity =
      if 0 ≤ n then given[n.toNat]?.map fun g => identity g.2 else none := by
  unfold user?
  split
  · have hget := congrArg (fun a : Array (Int × String) => a[n.toNat]?) h.kept
    simpa using hget
  · rfl

theorem exists_user?_of_lt (h : Userbase limit given d) {n : Int} (hn : 0 ≤ n ∧ n < d.userCount) :
    ∃ name u v, given[n.toNat]? = some (name, u) ∧ d.user? n = some v ∧
      v.networkId = u.networkId ∧ v.name = u.name := by
  obtain ⟨hnonneg, hlt⟩ := hn
  have hbound : n.toNat < given.length := by
    rw [← h.size_eq]
    unfold userCount at hlt
    omega
  obtain ⟨⟨name, u⟩, hgiven⟩ : ∃ g, given[n.toNat]? = some g :=
    ⟨_, List.getElem?_eq_getElem hbound⟩
  have hfound := h.user?_eq (n := n)
  rw [if_pos hnonneg, hgiven] at hfound
  obtain ⟨v, hv, hidentity⟩ := Option.map_eq_some_iff.mp hfound
  obtain ⟨hid, hname⟩ := Prod.mk.inj hidentity
  exact ⟨name, u, v, hgiven, hv, hid, hname⟩

theorem user?_eq_none (h : Userbase limit given d) {n : Int} (hn : ¬ (0 ≤ n ∧ n < d.userCount)) :
    d.user? n = none := by
  rw [← Option.map_eq_none_iff (f := identity), h.user?_eq]
  split
  · rw [Option.map_eq_none_iff, List.getElem?_eq_none_iff, ← h.size_eq]
    unfold userCount at hn
    omega
  · rfl

theorem registers_iff (h : Userbase limit given d) {name : String} :
    (∃ d' u, d.register name = .ok (d', u)) ↔
      (d.userCount : Int) < limit ∧ isIdentifier name = true := by
  simp only [register_eq_ok_iff, h.limit, userCount]
  constructor
  · rintro ⟨d', u, hroom, hname, -⟩
    exact ⟨hroom, hname⟩
  · rintro ⟨hroom, hname⟩
    exact ⟨_, _, hroom, hname, rfl, rfl⟩

theorem register_eq_error (h : Userbase limit given d) (name : String) :
    (limit ≤ d.userCount → d.register name = .error .usersFull) ∧
    ((d.userCount : Int) < limit → ¬ isIdentifier name = true →
      d.register name = .error (.name (.user name))) := by
  have hlimit := h.limit
  unfold userCount
  constructor
  · intro hfull
    rw [Directory.register, if_pos (hlimit.le.trans hfull)]
  · intro hroom hname
    rw [Directory.register, if_neg (by omega), if_pos (by simpa using hname)]

/-! ### One call -/

theorem register (h : Userbase limit given d) {name : String} {u : User}
    (hr : d.register name = .ok (d', u)) : Userbase limit (given ++ [(name, u)]) d' := by
  obtain ⟨-, -, hu, rfl⟩ := register_eq_ok_iff.mp hr
  have hsize := h.size_eq
  have hroom := h.room
  have hneeded := h.needed
  constructor
  case limit => exact h.limit
  case numbered =>
    intro k name' u' hk
    rw [List.getElem?_append] at hk
    split at hk
    · exact h.numbered hk
    · obtain ⟨hk, hlast⟩ := List.getElem?_eq_some_iff.mp hk
      simp only [List.length_singleton, Nat.lt_one_iff] at hk
      obtain rfl : k = given.length := by omega
      obtain ⟨rfl, rfl⟩ : name = name' ∧ u = u' := by simpa using hlast
      rw [hu, hsize]
  case kept => simp [h.kept]
  case doubled =>
    obtain ⟨j, hj⟩ := h.doubled
    show ∃ j, (if d.capacity ≤ d.users.size then 2 * d.capacity else d.capacity) = 16 * 2 ^ j
    split
    · exact ⟨j + 1, by rw [hj, Nat.pow_succ]; omega⟩
    · exact ⟨j, hj⟩
  case room =>
    show (d.users.push u).size ≤ if d.capacity ≤ d.users.size then 2 * d.capacity else d.capacity
    rw [Array.size_push]
    split <;> omega
  case needed =>
    show (if d.capacity ≤ d.users.size then 2 * d.capacity else d.capacity) = 16 ∨
      (if d.capacity ≤ d.users.size then 2 * d.capacity else d.capacity) < 2 * (d.users.push u).size
    rw [Array.size_push]
    split <;> omega

theorem update (h : Userbase limit given d) {seat seat' : Seat} {status team : Int}
    (hu : d.update seat status team = .ok (d', seat')) : Userbase limit given d' := by
  have hbase := base_update hu
  have hframe : d'.limit = d.limit ∧ d'.capacity = d.capacity ∧
      d'.users.map identity = d.users.map identity := by
    rw [← identity_setState d seat status team]
    simp only [base, Prod.mk.injEq] at hbase
    obtain ⟨husers, hlimit, hcapacity⟩ := hbase
    rw [husers, hlimit, hcapacity]
    cases seat <;> exact ⟨rfl, rfl, rfl⟩
  obtain ⟨hlimit, hcapacity, hkept⟩ := hframe
  have hsize : d'.users.size = d.users.size := by
    simpa using congrArg Array.size hkept
  constructor
  case limit => rw [hlimit, h.limit]
  case numbered => exact h.numbered
  case kept => rw [hkept, h.kept]
  all_goals rw [hcapacity]
  case doubled => exact h.doubled
  all_goals rw [hsize]
  case room => exact h.room
  case needed => exact h.needed

theorem call (h : Userbase limit given d) (c : Call) :
    Userbase limit (given ++ (d.call c).2) (d.call c).1 := by
  cases c with
  | register name =>
    cases hr : d.register name with
    | ok made => simpa [Directory.call, hr] using h.register hr
    | error f => simpa [Directory.call, hr] using h
  | update seat status team =>
    cases hu : d.update seat status team with
    | ok made => simpa [Directory.call, hu] using h.update hu
    | error f => simpa [Directory.call, hu] using h

/-! ### Any number of calls -/

theorem run (h : Userbase limit given d) (calls : List Call) :
    Userbase limit (given ++ (d.run calls).2) (d.run calls).1 := by
  induction calls generalizing given d with
  | nil => simpa [Directory.run] using h
  | cons c calls ih =>
    have hrest := ih (h.call c)
    rwa [List.append_assoc] at hrest

end Userbase

/-- The users of a directory are a list with a vacant tail, whatever it is called for. The list
is as long as there is room, the users come first in it, and each is looked up there under the
network ID. It registers what the directory registers, and is always long enough for it. An update
writes into the place of its user. -/
theorem row_exact {teams statuses : List String} {size limit : Int} {d₀ d : Directory}
    {calls : List Call} {given : List (String × User)}
    (hcreate : create teams statuses size limit = .ok d₀) (hrun : d₀.run calls = (d, given)) :
    d₀.row = Row.vacant ∧ d.row.places.length = d.capacity ∧
    d.row.places.take d.row.next = d.users.toList.map some ∧
    (∀ n : Int, d.row.user? n = d.user? n) ∧
    (∀ name, d.row.register? limit name =
      some ((d.register name).map fun made => (made.1.row, made.2))) ∧
    ∀ {seat seat' : Seat} {status team : Int} {d' : Directory},
      d.update seat status team = .ok (d', seat') →
      d'.row = d.row.setState status team seat := by
  have hd : Userbase limit given d := by
    have hrun' := (userbase_create hcreate).run calls
    rwa [hrun] at hrun'
  have hpos : 0 < d.capacity := by
    obtain ⟨j, hj⟩ := hd.doubled
    rw [hj]
    exact Nat.mul_pos (by decide) (Nat.two_pow_pos j)
  have hregister := register?_row hd.room hpos
  rw [hd.limit] at hregister
  obtain ⟨-, -, -, -, rfl⟩ := create_eq_ok_iff.mp hcreate
  exact ⟨rfl, length_places_row hd.room, d.take_places_row, d.user?_row, hregister, row_update⟩

/-- **What a directory knows of its users, whatever it is called for.** Let `given` be the
registrations that were accepted, in their order. The next one is accepted exactly if there are
fewer users than the limit and the name is an identifier, and the limit is the first reason to
refuse it. The `k`-th gave the ID `k` to the name that was asked for, on no team and with no status.
There is room for the least number `16 * 2 ^ j` of users that suffices. Under each number there is
the user that was given it, with the name and the ID of then, and under all others there is none. -/
theorem userbase_exact {teams statuses : List String} {size limit : Int} {d₀ d : Directory}
    {calls : List Call} {given : List (String × User)}
    (hcreate : create teams statuses size limit = .ok d₀) (hrun : d₀.run calls = (d, given)) :
    (∀ name, (∃ d' u, d.register name = .ok (d', u)) ↔
      (d.userCount : Int) < limit ∧ isIdentifier name = true) ∧
    (∀ name, limit ≤ d.userCount → d.register name = .error .usersFull) ∧
    (∀ name, (d.userCount : Int) < limit → ¬ isIdentifier name = true →
      d.register name = .error (.name (.user name))) ∧
    d.userCount = given.length ∧
    (∀ (k : Nat) (name : String) (u : User), given[k]? = some (name, u) →
      u = { networkId := k, name, status := noStatus, team := noTeam }) ∧
    IsLeast {c | (∃ j, c = 16 * 2 ^ j) ∧ d.userCount ≤ c} d.capacity ∧
    ∀ n : Int,
      (0 ≤ n ∧ n < d.userCount → ∃ name u v, given[n.toNat]? = some (name, u) ∧
        d.user? n = some v ∧ v.networkId = u.networkId ∧ v.name = u.name) ∧
      (¬ (0 ≤ n ∧ n < d.userCount) → d.user? n = none) := by
  have hd : Userbase limit given d := by
    have hrun' := (userbase_create hcreate).run calls
    rwa [hrun] at hrun'
  exact ⟨fun name => hd.registers_iff, fun name => (hd.register_eq_error name).1,
    fun name => (hd.register_eq_error name).2, hd.size_eq, fun k name u hk => hd.numbered hk,
    hd.isLeast, fun n => ⟨hd.exists_user?_of_lt, hd.user?_eq_none⟩⟩

/-- Seventeen of twenty users are registered, with a refused name and updates in between: the second
user is put on a team, and a record of somebody else with the same ID gets no place besides. -/
theorem userbase_exact_seventeen :
    ∃ (d₀ d : Directory) (calls : List Call) (given : List (String × User)),
      create ["Red"] ["Busy"] 1 20 = .ok d₀ ∧ d₀.run calls = (d, given) ∧ given.length = 17 ∧
      calls.length = 20 ∧ d.userCount = 17 ∧ d.capacity = 32 ∧
      d.user? 1 = some { networkId := 1, name := "Eve", status := 0, team := 0 } ∧
      d.user? 16 = some { networkId := 16, name := "Eve" } ∧ d.user? 17 = none ∧
      d.user? (-1) = none ∧
      (∀ name, (∃ d' u, d.register name = .ok (d', u)) ↔ isIdentifier name = true) := by
  let calls : List Call := List.replicate 2 (.register "Eve") ++
    [.register "Eve!", .update (.member 1) 0 0, .update (.guest ⟨1, "Eve", 0, noTeam⟩) 0 0] ++
    List.replicate 15 (.register "Eve")
  let d₀ : Directory := { teams := [⟨"Red", Roster.vacant 1⟩], statuses := ["Busy"], limit := 20 }
  have hcreate : create ["Red"] ["Busy"] 1 20 = .ok d₀ := by decide +kernel
  have hrun := (Prod.eta (d₀.run calls)).symm
  obtain ⟨haccepts, -, -, hcount, -, -, hfound⟩ := userbase_exact hcreate hrun
  have hlength : (d₀.run calls).2.length = 17 := by decide +kernel
  refine ⟨d₀, _, calls, _, hcreate, hrun, hlength, rfl, hcount.trans hlength, by decide +kernel,
    by decide +kernel, by decide +kernel, (hfound 17).2 ?_, (hfound (-1)).2 ?_, ?_⟩
  · rw [hcount, hlength]
    omega
  · omega
  · intro name
    rw [haccepts, hcount, hlength, and_iff_right (by decide)]

end Directory

end TeamPresence
