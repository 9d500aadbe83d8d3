import TeamPresence.Proofs.Directory.Roster

/-!
# Occupancy

Let a roster start out vacant and be called any number of times: to add somebody, or to remove
whoever has somebody's network ID.

**`occupancy_exact`**: no network ID sits in two slots. A newcomer takes the lowest vacant slot, and
gets none exactly if its network ID is seated or no slot is vacant; whoever is removed vacates the
one slot that it had. There is room while there are fewer members than slots, and the members, their
names and their statuses are listed in the order of the slots.

The slot of a newcomer is found in one pass (`scan`), which looks for the network ID and for a vacant
slot at once. A vacant slot that it has come across is given up when the network ID turns up behind
it (`scan_eq`).

What sits in a roster has a network ID, and its record is looked up when the roster is shown. It may
be the record itself.
-/

namespace TeamPresence.Roster

variable {α : Type}

/-! ### The slots in order -/

theorem members_eq (r : Roster α) : r.members = (List.range r.capacity).filterMap r.occupant? := by
  rw [members, slots_eq_map_range, List.filterMap_map, Function.id_comp]

theorem map_slots_eq {β : Type} (r : Roster α) (f : Option α → β) :
    r.slots.map f = (List.range r.capacity).map fun i => f (r.occupant? i) := by
  have hmap := congrArg (List.map f) r.slots_eq_map_range
  rwa [List.map_map] at hmap

theorem names_map_eq (r : Roster α) (record : α → User) :
    (r.map record).names =
      (List.range r.capacity).map fun i => (r.occupant? i).elim "" fun a => (record a).name := by
  rw [← r.map_slots_eq fun o => o.elim "" fun a => (record a).name, names, map, List.map_map]
  refine List.map_congr_left fun o _ => ?_
  cases o <;> rfl

theorem statuses_map_eq (r : Roster α) (record : α → User) :
    (r.map record).statuses =
      (List.range r.capacity).map fun i =>
        (r.occupant? i).elim noStatus fun a => (record a).status := by
  rw [← r.map_slots_eq fun o => o.elim noStatus fun a => (record a).status, statuses, map,
    List.map_map]
  refine List.map_congr_left fun o _ => ?_
  cases o <;> rfl

/-! ### One pass -/

variable [Numbered α]

/-- The slot for a newcomer with a network ID, found in one pass over the slots that are left. The
first of them is the slot `i`, and `free` is the first vacant one before it. -/
def scan (id : Int) : List (Option α) → Nat → Option Nat → Option Nat
  | [], _, free => free
  | o :: rest, i, free =>
    if isTakenBy id o then none
    else scan id rest (i + 1) (if free.isNone && o.isNone then some i else free)

/-- Adds somebody after one pass over the slots, and answers with its slot. -/
def addInOnePass (r : Roster α) (a : α) : Option Nat × Roster α :=
  match scan (Numbered.networkId a) r.slots 0 none with
  | some i => (some i, ⟨r.slots.set i (some a)⟩)
  | none => (none, r)

/-- The pass finds the first vacant slot, unless the network ID is in a slot that is left. -/
theorem scan_eq (id : Int) (slots : List (Option α)) (i : Nat) (free : Option Nat) :
    scan id slots i free =
      if slots.any (isTakenBy id) then none
      else free.or ((slots.findIdx? Option.isNone).map (i + ·)) := by
  induction slots generalizing i free with
  | nil => simp [scan]
  | cons o rest ih =>
    rw [scan, List.any_cons]
    by_cases htaken : isTakenBy id o = true
    · simp [htaken]
    · rw [if_neg htaken, ih, Bool.eq_false_iff.mpr htaken, Bool.false_or, List.findIdx?_cons]
      -- what the pass remembers stays; else this slot is remembered if it is vacant
      cases free with
      | some k => simp
      | none =>
        cases o with
        | none => simp
        | some b => simp [Function.comp_def, Nat.add_assoc, Nat.add_comm 1]

theorem scan_eq_seat? (r : Roster α) (a : α) :
    scan (Numbered.networkId a) r.slots 0 none = r.seat? a := by
  rw [scan_eq, seat?, contains, indexOf?, List.findIdx?_isSome, freeSlot?]
  simp

theorem addInOnePass_eq (r : Roster α) (a : α) : r.addInOnePass a = (r.seat? a, r.add a) := by
  rw [addInOnePass, scan_eq_seat?, add]
  cases r.seat? a <;> rfl

/-! ### One call -/

/-- Somebody with a network ID sits in a slot. -/
def Sits (r : Roster α) (id : Int) (i : Nat) : Prop :=
  ∃ a, r.occupant? i = some a ∧ Numbered.networkId a = id

/-- What comes of adding somebody to `r`: the slot that it got, and the roster `r'`. -/
structure Adds (r : Roster α) (a : α) (found : Option Nat) (r' : Roster α) : Prop where
  refused_iff : found = none ↔
    (∃ i, r.Sits (Numbered.networkId a) i) ∨ ∀ i < r.capacity, r.occupant? i ≠ none
  unchanged : found = none → r' = r
  lowest : ∀ {k : Nat}, found = some k →
    k < r.capacity ∧ r.occupant? k = none ∧ ∀ j < k, r.occupant? j ≠ none
  filled : ∀ {k : Nat}, found = some k →
    ∀ i, r'.occupant? i = if i = k then some a else r.occupant? i

/-- What comes of removing whoever has a network ID from `r`: whether anybody has, and the roster
`r'`. -/
structure Removes (r : Roster α) (id : Int) (found : Bool) (r' : Roster α) : Prop where
  found_iff : found = true ↔ ∃ i, r.Sits id i
  unchanged : found = false → r' = r
  vacated : found = true → ∃ k, (∀ i, r.Sits id i ↔ i = k) ∧
    ∀ i, r'.occupant? i = if i = k then none else r.occupant? i

theorem contains_iff_sits {r : Roster α} {id : Int} : r.contains id = true ↔ ∃ i, r.Sits id i :=
  contains_iff

theorem adds (r : Roster α) (a : α) : r.Adds a (r.seat? a) (r.add a) := by
  constructor
  case refused_iff => rw [seat?_eq_none_iff, contains_iff_sits, freeSlot?_eq_none_iff]
  case unchanged => exact add_of_seat?_eq_none
  case lowest => exact fun h => freeSlot?_eq_some_iff.mp (seat?_eq_some_iff.mp h).2
  case filled => exact fun h => occupant?_add h

theorem removes {r : Roster α} (hr : r.Distinct) (id : Int) :
    r.Removes id (r.contains id) (r.remove id) := by
  constructor
  case found_iff => exact contains_iff_sits
  case unchanged =>
    intro h
    exact remove_of_not_contains (Bool.eq_false_iff.mp h)
  case vacated =>
    intro h
    obtain ⟨k, hk⟩ := Option.isSome_iff_exists.mp h
    obtain ⟨⟨a, ha, hid⟩, -⟩ := indexOf?_eq_some_iff.mp hk
    refine ⟨k, fun i => ⟨?_, ?_⟩, occupant?_remove_of_indexOf? hk⟩
    · rintro ⟨b, hb, hid'⟩
      exact hr hb ha (hid'.trans hid.symm)
    · rintro rfl
      exact ⟨a, ha, hid⟩

namespace Distinct

variable {r : Roster α}

theorem add (hr : r.Distinct) (a : α) : (r.add a).Distinct := by
  cases hseat : r.seat? a with
  | none => rwa [add_of_seat?_eq_none hseat]
  | some k =>
    have hnew : ∀ {i : Nat} {b : α}, r.occupant? i = some b →
        Numbered.networkId b ≠ Numbered.networkId a := fun hb hid =>
      (seat?_eq_some_iff.mp hseat).1 (contains_iff.mpr ⟨_, _, hb, hid⟩)
    intro i j b c hb hc hid
    rw [occupant?_add hseat] at hb hc
    split at hb <;> split at hc
    · exact ‹i = k›.trans ‹j = k›.symm
    · obtain rfl := Option.some.inj hb
      exact absurd hid.symm (hnew hc)
    · obtain rfl := Option.some.inj hc
      exact absurd hid (hnew hb)
    · exact hr hb hc hid

theorem remove (hr : r.Distinct) (id : Int) : (r.remove id).Distinct := by
  intro i j a b ha hb hid
  rw [occupant?_remove hr] at ha hb
  exact hr (Option.filter_eq_some_iff.mp ha).1 (Option.filter_eq_some_iff.mp hb).1 hid

end Distinct

/-! ### Any number of calls -/

/-- A call of a roster. -/
inductive Call (α : Type)
  /-- To add somebody. -/
  | add (a : α)
  /-- To remove whoever has the network ID of somebody. -/
  | remove (a : α)
deriving Repr, DecidableEq

/-- The roster after a call. -/
def call (r : Roster α) : Call α → Roster α
  | .add a => r.add a
  | .remove a => r.remove (Numbered.networkId a)

/-- The roster after calls, one after the other. -/
def after (r : Roster α) (calls : List (Call α)) : Roster α := calls.foldl call r

theorem capacity_call (r : Roster α) (c : Call α) : (r.call c).capacity = r.capacity := by
  cases c with
  | add a => exact r.capacity_add a
  | remove a => exact r.capacity_remove _

theorem capacity_after (r : Roster α) (calls : List (Call α)) :
    (r.after calls).capacity = r.capacity := by
  induction calls generalizing r with
  | nil => rfl
  | cons c calls ih => exact (ih (r.call c)).trans (r.capacity_call c)

theorem distinct_vacant (capacity : Int) : (vacant capacity : Roster α).Distinct := by
  intro i j a b ha
  rw [occupant?_vacant] at ha
  cases ha

theorem Distinct.call {r : Roster α} (hr : r.Distinct) (c : Call α) : (r.call c).Distinct := by
  cases c with
  | add a => exact hr.add a
  | remove a => exact hr.remove _

theorem Distinct.after {r : Roster α} (hr : r.Distinct) (calls : List (Call α)) :
    (r.after calls).Distinct := by
  induction calls generalizing r with
  | nil => exact hr
  | cons c calls ih => exact ih (hr.call c)

/-- **What a roster does, whatever it was called for before.** It has as many slots as at first, and
no network ID sits in two of them. A newcomer gets no slot, and nothing changes, exactly if its
network ID is seated or no slot is vacant; else it gets the lowest vacant one. One pass over the
slots comes to the same. A removal tells whether the network ID was seated, and vacates its slot
only. There is room exactly while there are fewer members than slots. The members are the occupants
of the slots in their order, and a name and a status are shown for each slot, taken or not. -/
theorem occupancy_exact (capacity : Int) (calls : List (Call α)) (record : α → User) :
    let r := (vacant capacity : Roster α).after calls
    r.capacity = capacity.toNat ∧ r.Distinct ∧
    (∀ a : α, r.addInOnePass a = (r.seat? a, r.add a) ∧ r.Adds a (r.seat? a) (r.add a)) ∧
    (∀ a : α, r.Removes (Numbered.networkId a) (r.contains (Numbered.networkId a))
      (r.remove (Numbered.networkId a))) ∧
    (r.hasRoom = true ↔ (r.members.length : Int) < capacity) ∧
    r.members = (List.range r.capacity).filterMap r.occupant? ∧
    (r.map record).names =
      ((List.range r.capacity).map fun i => (r.occupant? i).elim "" fun a => (record a).name) ∧
    (r.map record).statuses =
      (List.range r.capacity).map fun i =>
        (r.occupant? i).elim noStatus fun a => (record a).status := by
  intro r
  have hcapacity : r.capacity = capacity.toNat :=
    (capacity_after _ calls).trans (capacity_vacant capacity)
  have hdistinct : r.Distinct := Distinct.after (distinct_vacant capacity) calls
  have hroom : r.hasRoom = true ↔ (r.members.length : Int) < capacity := by
    rw [hasRoom_iff_length_members_lt, hcapacity]
    omega
  exact ⟨hcapacity, hdistinct, fun a => ⟨r.addInOnePass_eq a, r.adds a⟩,
    fun a => removes hdistinct _, hroom, r.members_eq, r.names_map_eq record,
    r.statuses_map_eq record⟩

/-- The second of two users is seated in the second slot, and the first slot is vacant. Another user
under the same network ID gets no slot, though the pass comes across the vacant one first. -/
example :
    let bob : User := { networkId := 1, name := "Bob" }
    let r := (vacant 3).after [.add { networkId := 0, name := "Alice" }, .add bob,
      .remove { networkId := 0, name := "Eve" }]
    r = ⟨[none, some bob, none]⟩ ∧
      r.addInOnePass { networkId := 1, name := "Eve", status := 0 } = (none, r) := by
  decide

end TeamPresence.Roster
