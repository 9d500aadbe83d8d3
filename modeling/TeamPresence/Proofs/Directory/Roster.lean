import TeamPresence.Directory.Roster

/-!
# Slots of a roster

What the operations of a roster do slot by slot. `occupant?` says who sits in a slot; the lemmas
below say of each operation which slots it reads or changes, so that nothing later has to look at
the row of slots itself.

* `seat?_eq_some_iff`: a newcomer gets the lowest vacant slot, and none if its network ID is seated.
* `occupant?_add`, `occupant?_remove`: a newcomer takes that slot, a leaver vacates its own, and no
  other slot changes.
* `hasRoom_iff_length_members_lt`: there is room while fewer members than slots are present.
-/

namespace TeamPresence.Roster

variable {α : Type}

/-- Who sits in a slot. -/
def occupant? (r : Roster α) (i : Nat) : Option α := r.slots[i]?.join

theorem occupant?_eq_some_iff {r : Roster α} {i : Nat} {a : α} :
    r.occupant? i = some a ↔ r.slots[i]? = some (some a) := by
  rw [occupant?, Option.join_eq_some_iff]

theorem lt_capacity_of_occupant? {r : Roster α} {i : Nat} {a : α} (h : r.occupant? i = some a) :
    i < r.capacity := by
  obtain ⟨hi, -⟩ := List.getElem?_eq_some_iff.mp (occupant?_eq_some_iff.mp h)
  exact hi

theorem getElem_slots_eq {r : Roster α} {i : Nat} (hi : i < r.slots.length) :
    r.slots[i] = r.occupant? i := by
  rw [occupant?, List.getElem?_eq_getElem hi, Option.join_some]

@[simp] theorem occupant?_vacant (n : Int) (i : Nat) :
    (vacant n : Roster α).occupant? i = none := by
  rw [occupant?, vacant, List.getElem?_replicate]
  split <;> rfl

theorem slots_eq_map_range (r : Roster α) : r.slots = (List.range r.capacity).map r.occupant? := by
  refine List.ext_getElem (by rw [List.length_map, List.length_range, capacity]) fun i hi _ => ?_
  rw [getElem_slots_eq hi, List.getElem_map, List.getElem_range]

theorem occupant?_set (r : Roster α) {k : Nat} (hk : k < r.capacity) (o : Option α) (i : Nat) :
    (⟨r.slots.set k o⟩ : Roster α).occupant? i = if i = k then o else r.occupant? i := by
  rw [occupant?, List.getElem?_set, occupant?]
  by_cases hik : i = k
  · rw [if_pos hik.symm, if_pos (hik ▸ hk), if_pos hik, Option.join_some]
  · rw [if_neg (Ne.symm hik), if_neg hik]

/-! ### Members and room -/

theorem mem_members_iff {r : Roster α} {a : α} : a ∈ r.members ↔ ∃ i, r.occupant? i = some a := by
  rw [members, List.mem_filterMap]
  simp only [id_eq, exists_eq_right, List.mem_iff_getElem?, occupant?_eq_some_iff]

theorem freeSlot?_eq_some_iff {r : Roster α} {k : Nat} :
    r.freeSlot? = some k ↔
      k < r.capacity ∧ r.occupant? k = none ∧ ∀ j < k, r.occupant? j ≠ none := by
  rw [freeSlot?, List.findIdx?_eq_some_iff_getElem]
  constructor
  · rintro ⟨hk, hnone, hfull⟩
    refine ⟨hk, ?_, fun j hj => ?_⟩
    · rw [← getElem_slots_eq hk]
      exact Option.isNone_iff_eq_none.mp hnone
    · have hfull := hfull j hj
      rw [getElem_slots_eq (by omega)] at hfull
      exact fun e => hfull (by rw [e]; rfl)
  · rintro ⟨hk, hnone, hfull⟩
    refine ⟨hk, ?_, fun j hj => ?_⟩
    · rw [getElem_slots_eq hk, hnone]
      rfl
    · rw [getElem_slots_eq (Nat.lt_trans hj hk), Option.isNone_iff_eq_none]
      exact hfull j hj

theorem freeSlot?_eq_none_iff {r : Roster α} :
    r.freeSlot? = none ↔ ∀ i < r.capacity, r.occupant? i ≠ none := by
  rw [freeSlot?, List.findIdx?_eq_none_iff, slots_eq_map_range]
  simp [Option.isSome_iff_ne_none]

theorem freeSlot?_isSome (r : Roster α) : r.freeSlot?.isSome = r.hasRoom := by
  rw [freeSlot?, List.findIdx?_isSome, hasRoom]

theorem length_members_add_count_none (l : List (Option α)) :
    (l.filterMap id).length + l.countP Option.isNone = l.length := by
  induction l with
  | nil => rfl
  | cons o rest ih =>
    cases o with
    | none =>
      rw [List.filterMap_cons_none rfl, List.countP_cons_of_pos rfl, List.length_cons]
      omega
    | some x =>
      rw [List.filterMap_cons_some (f := id) rfl, List.countP_cons_of_neg (by simp),
        List.length_cons, List.length_cons]
      omega

theorem hasRoom_iff_length_members_lt {r : Roster α} :
    r.hasRoom = true ↔ r.members.length < r.capacity := by
  have hsplit := length_members_add_count_none r.slots
  rw [hasRoom, List.any_eq_true, members, capacity, ← hsplit, Nat.lt_add_right_iff_pos,
    List.countP_pos_iff]

/-! ### Looking an ID up -/

variable [Numbered α]

theorem isTakenBy_iff {id : Int} {o : Option α} :
    isTakenBy id o = true ↔ ∃ a, o = some a ∧ Numbered.networkId a = id := by
  cases o <;> simp [isTakenBy]

theorem indexOf?_eq_some_iff {r : Roster α} {id : Int} {k : Nat} :
    r.indexOf? id = some k ↔
      (∃ a, r.occupant? k = some a ∧ Numbered.networkId a = id) ∧
        ∀ j < k, ∀ a, r.occupant? j = some a → Numbered.networkId a ≠ id := by
  rw [indexOf?, List.findIdx?_eq_some_iff_getElem]
  constructor
  · rintro ⟨hk, htaken, hother⟩
    rw [getElem_slots_eq hk, isTakenBy_iff] at htaken
    refine ⟨htaken, fun j hj a ha e => hother j hj ?_⟩
    rw [getElem_slots_eq (by omega)]
    exact isTakenBy_iff.mpr ⟨a, ha, e⟩
  · rintro ⟨⟨a, ha, e⟩, hother⟩
    have hk := lt_capacity_of_occupant? ha
    refine ⟨hk, ?_, fun j hj htaken => ?_⟩
    · rw [getElem_slots_eq hk]
      exact isTakenBy_iff.mpr ⟨a, ha, e⟩
    · rw [getElem_slots_eq (Nat.lt_trans hj hk)] at htaken
      obtain ⟨b, hb, e⟩ := isTakenBy_iff.mp htaken
      exact hother j hj b hb e

theorem contains_iff {r : Roster α} {id : Int} :
    r.contains id = true ↔ ∃ i a, r.occupant? i = some a ∧ Numbered.networkId a = id := by
  rw [contains, indexOf?, List.findIdx?_isSome, List.any_eq_true]
  simp only [isTakenBy_iff, List.mem_iff_getElem?, occupant?_eq_some_iff]
  grind

theorem indexOf?_eq_none_of_not_contains {r : Roster α} {id : Int} (h : ¬ r.contains id = true) :
    r.indexOf? id = none := by
  rw [contains, Bool.not_eq_true, Option.isSome_eq_false_iff, Option.isNone_iff_eq_none] at h
  exact h

/-! ### Coming and going -/

/-- A newcomer gets the lowest vacant slot, unless its network ID is seated already. -/
theorem seat?_eq_some_iff {r : Roster α} {a : α} {k : Nat} :
    r.seat? a = some k ↔
      ¬ r.contains (Numbered.networkId a) = true ∧ r.freeSlot? = some k := by
  rw [seat?]
  split <;> simp_all

theorem seat?_eq_none_iff {r : Roster α} {a : α} :
    r.seat? a = none ↔ r.contains (Numbered.networkId a) = true ∨ r.freeSlot? = none := by
  rw [seat?]
  split <;> simp_all

theorem occupant?_add {r : Roster α} {a : α} {k : Nat} (h : r.seat? a = some k) (i : Nat) :
    (r.add a).occupant? i = if i = k then some a else r.occupant? i := by
  have hk := (freeSlot?_eq_some_iff.mp (seat?_eq_some_iff.mp h).2).1
  rw [add, h]
  exact occupant?_set r hk (some a) i

theorem add_of_seat?_eq_none {r : Roster α} {a : α} (h : r.seat? a = none) : r.add a = r := by
  rw [add, h]

theorem remove_of_not_contains {r : Roster α} {id : Int} (h : ¬ r.contains id = true) :
    r.remove id = r := by
  rw [remove, indexOf?_eq_none_of_not_contains h]

/-- No network ID sits in two slots. -/
def Distinct (r : Roster α) : Prop :=
  ∀ {i j : Nat} {a b : α}, r.occupant? i = some a → r.occupant? j = some b →
    Numbered.networkId a = Numbered.networkId b → i = j

theorem occupant?_remove_of_indexOf? {r : Roster α} {id : Int} {k : Nat}
    (h : r.indexOf? id = some k) (i : Nat) :
    (r.remove id).occupant? i = if i = k then none else r.occupant? i := by
  obtain ⟨⟨a, ha, -⟩, -⟩ := indexOf?_eq_some_iff.mp h
  rw [remove, h]
  exact occupant?_set r (lt_capacity_of_occupant? ha) none i

theorem occupant?_remove {r : Roster α} (hr : r.Distinct) (id : Int) (i : Nat) :
    (r.remove id).occupant? i = (r.occupant? i).filter fun a => Numbered.networkId a != id := by
  by_cases hin : r.contains id = true
  · obtain ⟨k, hk⟩ := Option.isSome_iff_exists.mp hin
    obtain ⟨⟨a, ha, e⟩, -⟩ := indexOf?_eq_some_iff.mp hk
    rw [occupant?_remove_of_indexOf? hk]
    by_cases hik : i = k
    · rw [if_pos hik, hik, ha, Option.filter_some, e, bne_self_eq_false]
      rfl
    · rw [if_neg hik]
      cases hi : r.occupant? i with
      | none => rfl
      | some b =>
        have hb : Numbered.networkId b ≠ id := fun hb => hik (hr hi ha (hb.trans e.symm))
        rw [Option.filter_some, if_pos (bne_iff_ne.mpr hb)]
  · rw [remove_of_not_contains hin]
    cases hi : r.occupant? i with
    | none => rfl
    | some b =>
      have hb : Numbered.networkId b ≠ id := fun hb => hin (contains_iff.mpr ⟨i, b, hi, hb⟩)
      rw [Option.filter_some, if_pos (bne_iff_ne.mpr hb)]

end TeamPresence.Roster
