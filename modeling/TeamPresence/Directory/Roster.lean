import TeamPresence.Limits

/-!
# Users and rosters

A user is a name under a network ID, with a status and a team. A roster is a row of slots, each
vacant or taken. Being in the roster is sitting in a slot; which slot it is means nothing else. A
newcomer takes the first vacant slot.
-/

namespace TeamPresence

/-- A registered user. -/
structure User where
  networkId : Int
  name : String
  status : Int := noStatus
  team : Int := noTeam
deriving Repr, DecidableEq

/-- What has a network ID. Occupants of a roster are told apart by it. -/
class Numbered (α : Type) where
  networkId : α → Int

instance : Numbered User := ⟨User.networkId⟩

/-- A row of slots. -/
structure Roster (α : Type) where
  slots : List (Option α)
deriving Repr, DecidableEq

namespace Roster

variable {α : Type}

/-- A roster of vacant slots. -/
def vacant (capacity : Int) : Roster α := ⟨List.replicate capacity.toNat none⟩

def capacity (r : Roster α) : Nat := r.slots.length

/-- The occupants in the order of their slots. -/
def members (r : Roster α) : List α := r.slots.filterMap id

/-- The first vacant slot. -/
def freeSlot? (r : Roster α) : Option Nat := r.slots.findIdx? Option.isNone

def hasRoom (r : Roster α) : Bool := r.slots.any Option.isNone

def map {β : Type} (f : α → β) (r : Roster α) : Roster β := ⟨r.slots.map (Option.map f)⟩

@[simp] theorem capacity_vacant (n : Int) : (vacant n : Roster α).capacity = n.toNat := by
  simp [vacant, capacity]

variable [Numbered α]

/-- Whether a slot is taken under a network ID. -/
def isTakenBy (id : Int) : Option α → Bool
  | some a => Numbered.networkId a == id
  | none => false

/-- The first slot taken under a network ID. -/
def indexOf? (r : Roster α) (id : Int) : Option Nat := r.slots.findIdx? (isTakenBy id)

def contains (r : Roster α) (id : Int) : Bool := (r.indexOf? id).isSome

/-- The slot that a newcomer gets: none if it has one already or if all are taken. -/
def seat? (r : Roster α) (a : α) : Option Nat :=
  if r.contains (Numbered.networkId a) then none else r.freeSlot?

/-- The roster after a newcomer took its slot, if there is one for it. -/
def add (r : Roster α) (a : α) : Roster α :=
  match r.seat? a with
  | some i => ⟨r.slots.set i (some a)⟩
  | none => r

/-- The roster after the slot under a network ID was vacated, if there is one. -/
def remove (r : Roster α) (id : Int) : Roster α :=
  match r.indexOf? id with
  | some i => ⟨r.slots.set i none⟩
  | none => r

@[simp] theorem capacity_add (r : Roster α) (a : α) : (r.add a).capacity = r.capacity := by
  unfold add
  split <;> simp [capacity]

@[simp] theorem capacity_remove (r : Roster α) (id : Int) :
    (r.remove id).capacity = r.capacity := by
  unfold remove
  split <;> simp [capacity]

/-- The name in each slot, empty where the slot is vacant. -/
def names (r : Roster User) : List String :=
  r.slots.map fun | some u => u.name | none => ""

/-- The status in each slot, `noStatus` where the slot is vacant. -/
def statuses (r : Roster User) : List Int :=
  r.slots.map fun | some u => u.status | none => noStatus

end Roster

end TeamPresence
