import Mathlib.Data.List.DropRight
import TeamPresence.Limits
import TeamPresence.Proofs.Outcome
import TeamPresence.Wire.SlotList

/-!
# Texts in slots

What is read back from slots that were written. A text comes back without the null characters at its
end (`trimNulls`), and a list of entries comes back entry by entry: `Lays b entries` says that `b`
is the slots of the entries.

* `lays_pack`: what `pack` writes is the delimiters and identifiers in order.
* `unpack_eq`: what `unpack` reads is the texts between its delimiter and the next one.
-/

namespace TeamPresence

/-- A text without the null characters at its end. -/
def trimNulls (s : String) : String := String.ofList (s.toList.rdropWhile (· == '\x00'))

theorem trimNulls_eq_self {s : String} (h : ∀ c ∈ s.toList, c ≠ '\x00') : trimNulls s = s := by
  rw [trimNulls, List.rdropWhile_eq_self_iff.mpr, String.ofList_toList]
  intro hne
  simpa using h _ (List.getLast_mem hne)

theorem trimZeros_concat {x : UInt8} (hx : x ≠ 0) (b : Bytes) :
    trimZeros (b ++ [x]) = b ++ [x] := by
  induction b with
  | nil => simp [trimZeros, hx]
  | cons y rest ih =>
    rw [List.cons_append, trimZeros, ih]
    cases rest <;> rfl

theorem textOf_of_encode {s : String} {b : Bytes} (h : Latin1.encode s = .ok b) :
    Wire.textOf b = trimNulls s := by
  obtain ⟨hall, rfl⟩ := Latin1.encode_eq_ok_iff.mp h
  rw [Wire.textOf, Latin1.decode, trimNulls]
  congr 1
  generalize s.toList = cs at hall
  induction cs using List.reverseRecOn with
  | nil => rfl
  | append_singleton cs c ih =>
    have hc : Latin1.charOf (Latin1.byteOf c) = c := Latin1.charOf_byteOf (hall c (by simp))
    have hcs : ∀ d ∈ cs, Latin1.isEncodable d = true := fun d hd => hall d (by simp [hd])
    rw [List.map_append, List.map_singleton, List.rdropWhile_concat]
    by_cases hnull : c = '\x00'
    · subst hnull
      exact (congrArg _ (trimZeros_append_replicate_zero _ 1)).trans (ih hcs)
    · have hx : Latin1.byteOf c ≠ 0 := fun e => hnull (by rw [← hc, e]; rfl)
      rw [if_neg (by simpa using hnull), trimZeros_concat hx, List.map_append, List.map_map,
        List.map_singleton, hc]
      congr 1
      exact (List.map_congr_left fun d hd => Latin1.charOf_byteOf (hcs d hd)).trans (List.map_id _)

namespace Wire

/-- A text that is read back as it was written. -/
def IsPlain (s : String) : Prop := trimNulls s = s

/-- The texts of the first `n` slots. -/
def slotTexts : Nat → Bytes → List String
  | 0, _ => []
  | n + 1, body => slotText body :: slotTexts n (body.drop slotSize)

/-- Slots hold entries, one after the other. -/
structure Lays (b : Bytes) (entries : List String) : Prop where
  length : b.length = slotSize * entries.length
  texts : slotTexts entries.length b = entries.map trimNulls

/-! ### Writing -/

theorem slotTexts_append {m : Nat} {a : Bytes} (ha : a.length = slotSize * m) (n : Nat)
    (b : Bytes) : slotTexts (m + n) (a ++ b) = slotTexts m a ++ slotTexts n b := by
  induction m generalizing a with
  | zero =>
    obtain rfl := List.length_eq_zero_iff.mp ha
    rw [Nat.zero_add]
    rfl
  | succ m ih =>
    have hle : slotSize ≤ a.length := by rw [ha]; exact Nat.le_mul_of_pos_right _ (by omega)
    have hrest : (a.drop slotSize).length = slotSize * m := by
      rw [List.length_drop, ha, Nat.mul_succ]
      omega
    rw [show m + 1 + n = m + n + 1 by omega, slotTexts, slotTexts,
      List.drop_append_of_le_length hle, ih hrest, slotText, slotText,
      List.take_append_of_le_length hle, List.cons_append]

theorem lays_nil : Lays [] [] := ⟨rfl, rfl⟩

theorem Lays.append {a b : Bytes} {l k : List String} (ha : Lays a l) (hb : Lays b k) :
    Lays (a ++ b) (l ++ k) := by
  refine ⟨?_, ?_⟩
  · rw [List.length_append, List.length_append, ha.length, hb.length, Nat.mul_add]
  · rw [List.length_append, slotTexts_append ha.length, ha.texts, hb.texts, List.map_append]

theorem slotOf_eq_ok_iff {entry : String} {b : Bytes} :
    slotOf entry = .ok b ↔
      ∃ raw, Latin1.encode entry = .ok raw ∧ raw.length ≤ slotSize ∧ b = padSlot raw := by
  rw [slotOf]
  cases Latin1.encode entry with
  | error gap => simp
  | ok raw =>
    simp only [Except.ok.injEq, exists_eq_left']
    by_cases hle : raw.length ≤ slotSize
    · rw [if_neg (by omega), Except.ok.injEq, and_iff_right hle, eq_comm]
    · rw [if_pos (by omega)]
      simp [hle]

theorem lays_slotOf {entry : String} {b : Bytes} (h : slotOf entry = .ok b) : Lays b [entry] := by
  obtain ⟨raw, hraw, hle, rfl⟩ := slotOf_eq_ok_iff.mp h
  have hlen := length_padSlot hle
  refine ⟨hlen, ?_⟩
  rw [List.length_singleton, slotTexts, slotTexts, slotText, List.take_of_length_le (by omega),
    textOf_padSlot, textOf_of_encode hraw, List.map_singleton]

theorem lays_packIdentifiers {names : List String} {b : Bytes} (h : packIdentifiers names = .ok b) :
    Lays b names := by
  induction names generalizing b with
  | nil =>
    cases h
    exact lays_nil
  | cons name rest ih =>
    rw [packIdentifiers] at h
    split at h
    · cases h
    · simp only [pure_eq_ok, bind_eq_ok_iff, Except.ok.injEq] at h
      obtain ⟨slot, hslot, slots, hslots, rfl⟩ := h
      exact (lays_slotOf hslot).append (ih hslots)

def Category.entries (c : Category) : List String := c.delimiter :: c.identifiers

theorem lays_packCategory {c : Category} {b : Bytes} (h : packCategory c = .ok b) :
    Lays b c.entries := by
  rw [packCategory] at h
  split at h
  · cases h
  · simp only [pure_eq_ok, bind_eq_ok_iff, Except.ok.injEq] at h
    obtain ⟨slot, hslot, slots, hslots, rfl⟩ := h
    exact (lays_slotOf hslot).append (lays_packIdentifiers hslots)

theorem lays_packCategories {cs : List Category} {b : Bytes} (h : packCategories cs = .ok b) :
    Lays b (cs.flatMap Category.entries) := by
  induction cs generalizing b with
  | nil =>
    cases h
    exact lays_nil
  | cons c rest ih =>
    simp only [packCategories, pure_eq_ok, bind_eq_ok_iff, Except.ok.injEq] at h
    obtain ⟨slots, hslots, others, hothers, rfl⟩ := h
    exact (lays_packCategory hslots).append (ih hothers)

theorem lays_pack {cs : List Category} {terminate : Bool} {b : Bytes}
    (h : pack cs terminate = .ok b) :
    ∃ slots, b = slots ++ terminator terminate ∧ Lays slots (cs.flatMap Category.entries) := by
  simp only [pack, pure_eq_ok, bind_eq_ok_iff, Except.ok.injEq] at h
  obtain ⟨slots, hslots, rfl⟩ := h
  exact ⟨slots, rfl, lays_packCategories hslots⟩

/-! ### Reading -/

theorem identifiersFrom_eq (n : Nat) (body : Bytes) :
    identifiersFrom n body = (slotTexts n body).takeWhile fun s => !isMarked s := by
  induction n generalizing body with
  | zero => rfl
  | succ n ih =>
    rw [identifiersFrom, slotTexts, List.takeWhile_cons, ih]
    cases isMarked (slotText body) <;> rfl

/-- The names that follow the first occurrence of a delimiter in a row of texts, up to the next text
that is marked. -/
def namesAfter? (delimiter : String) (texts : List String) : Option (List String) :=
  match texts.dropWhile (fun t => t != delimiter) with
  | [] => none
  | _ :: rest => some (rest.takeWhile fun t => !isMarked t)

theorem identifiersAfter?_eq (delimiter : String) (n : Nat) (body : Bytes) :
    identifiersAfter? delimiter n body = namesAfter? delimiter (slotTexts n body) := by
  induction n generalizing body with
  | zero => rfl
  | succ n ih =>
    rw [identifiersAfter?, slotTexts, namesAfter?, List.dropWhile_cons]
    by_cases hfirst : slotText body = delimiter
    · simp [hfirst, identifiersFrom_eq]
    · rw [if_neg hfirst, ih, namesAfter?, if_pos (by simpa using hfirst)]

/-- **What is read of a body depends on the texts of its whole slots alone.** -/
theorem unpack_eq (body : Bytes) (delimiter : String) :
    unpack body delimiter =
      match namesAfter? delimiter (slotTexts (slotCount body) body) with
      | some names => .ok names
      | none => .error (.malformed (.listMissing delimiter)) := by
  cases hfound : namesAfter? delimiter (slotTexts (slotCount body) body) with
  | none => rw [unpack, identifiersAfter?_eq, hfound]
  | some names => rw [unpack, identifiersAfter?_eq, hfound]

theorem Lays.texts_append {b tail : Bytes} {entries : List String} (h : Lays b entries)
    (htail : tail.length < slotSize) :
    slotTexts (slotCount (b ++ tail)) (b ++ tail) = entries.map trimNulls := by
  have hcount : slotCount (b ++ tail) = entries.length := by
    rw [slotCount, List.length_append, h.length, Nat.mul_add_div (by decide),
      Nat.div_eq_of_lt htail, Nat.add_zero]
  have hsplit := slotTexts_append h.length 0 tail
  rw [slotTexts, List.append_nil, Nat.add_zero, h.texts] at hsplit
  rw [hcount, hsplit]

end Wire

end TeamPresence
