import TeamPresence.Proofs.Wire.Slots

/-!
# Reading a list out of any bytes

`unpack` reads slot after slot. **`unpack_exact`** says what it makes of every body, packed or not:
cut the body into its whole slots, take the text of each, and of the texts those that follow the
first one that is the delimiter, up to the next marked one; if no text is the delimiter, the body is
malformed. Bytes that complete no further slot change nothing, wherever they come from.

The same is computed by two loops over offsets that stop at the start of the last slot that a body
has room for (`scan`). That bound is negative for a body shorter than a slot, and neither loop looks
at such a body then.
-/

namespace TeamPresence

theorem trimZeros_eq_rdropWhile (b : Bytes) : trimZeros b = b.rdropWhile (· == 0) := by
  induction b using List.reverseRecOn with
  | nil => rfl
  | append_singleton b x ih =>
    rw [List.rdropWhile_concat]
    by_cases hx : x = 0
    · subst hx
      rw [if_pos (by decide), ← ih]
      exact trimZeros_append_replicate_zero b 1
    · rw [if_neg (by simpa using hx), trimZeros_concat hx]

namespace Wire

/-! ### Cutting, then searching -/

/-- The whole slots of a body, from its start on. Up to fifteen bytes at its end are left over. -/
def wholeSlots (body : Bytes) : List Bytes :=
  (List.range (body.length / 16)).map fun i => (body.drop (16 * i)).take 16

/-- The characters of a slot in Latin-1, without the zeros at its end. -/
def slotCharacters (slot : Bytes) : String :=
  String.ofList ((slot.rdropWhile (· == 0)).map fun x => Char.ofNat x.toNat)

/-- The texts after the first one that is the delimiter, up to the next that starts with a mark. -/
def listAfter (texts : List String) (delimiter : String) : Except Fault (List String) :=
  if delimiter ∈ texts then
    .ok ((texts.drop (texts.idxOf delimiter + 1)).takeWhile fun t => t.toList.head? ≠ some '#')
  else .error (.malformed (.listMissing delimiter))

theorem slotTexts_eq_map_range (n : Nat) (body : Bytes) :
    slotTexts n body = (List.range n).map fun i => slotText (body.drop (16 * i)) := by
  induction n generalizing body with
  | zero => rfl
  | succ n ih =>
    rw [slotTexts, ih, List.range_succ_eq_map, List.map_cons, List.map_map]
    congr 1
    refine List.map_congr_left fun i _ => ?_
    rw [List.drop_drop, Function.comp_apply, Nat.mul_succ, Nat.add_comm]
    rfl

theorem slotTexts_eq_wholeSlots (body : Bytes) :
    slotTexts (slotCount body) body = (wholeSlots body).map slotCharacters := by
  rw [slotTexts_eq_map_range, wholeSlots, List.map_map]
  refine List.map_congr_left fun i _ => ?_
  rw [slotText, textOf, trimZeros_eq_rdropWhile]
  rfl

theorem namesAfter?_eq (delimiter : String) (texts : List String) :
    namesAfter? delimiter texts =
      if delimiter ∈ texts then
        some ((texts.drop (texts.idxOf delimiter + 1)).takeWhile fun t => !isMarked t)
      else none := by
  induction texts with
  | nil => rfl
  | cons t rest ih =>
    rw [namesAfter?, List.dropWhile_cons]
    by_cases hfirst : t = delimiter
    · simp [hfirst]
    · have hne : delimiter ≠ t := Ne.symm hfirst
      rw [if_pos (by simpa using hfirst), ← namesAfter?, ih]
      simp [hfirst, hne, List.idxOf_cons_ne]

theorem unpack_eq_listAfter (body : Bytes) (delimiter : String) :
    unpack body delimiter = listAfter ((wholeSlots body).map slotCharacters) delimiter := by
  rw [unpack_eq, namesAfter?_eq, slotTexts_eq_wholeSlots, listAfter]
  have hmarked :
      (fun t : String => decide (t.toList.head? ≠ some '#')) = fun t => !isMarked t := by
    funext t
    by_cases hhead : t.toList.head? = some '#' <;> simp [isMarked, mark, hhead]
  rw [hmarked]
  by_cases hmem : delimiter ∈ (wholeSlots body).map slotCharacters
  · rw [if_pos hmem, if_pos hmem]
  · rw [if_neg hmem, if_neg hmem]

/-! ### Bytes left over -/

theorem slotTexts_append_of_le {n : Nat} {body : Bytes} (h : slotSize * n ≤ body.length)
    (tail : Bytes) : slotTexts n (body ++ tail) = slotTexts n body := by
  have htaken : (body.take (slotSize * n)).length = slotSize * n := List.length_take_of_le h
  have hfirst : ∀ rest, slotTexts n (body.take (slotSize * n) ++ rest) =
      slotTexts n (body.take (slotSize * n)) := by
    intro rest
    have happend := slotTexts_append htaken 0 rest
    rwa [slotTexts, List.append_nil] at happend
  rw [← List.take_append_drop (slotSize * n) body, List.append_assoc, hfirst, hfirst]

theorem unpack_append {body tail : Bytes} (h : body.length % 16 + tail.length < 16)
    (delimiter : String) : unpack (body ++ tail) delimiter = unpack body delimiter := by
  have hcount : slotCount (body ++ tail) = slotCount body := by
    unfold slotCount slotSize
    rw [List.length_append]
    omega
  have hle : slotSize * slotCount body ≤ body.length := Nat.mul_div_le body.length slotSize
  rw [unpack_eq, unpack_eq, hcount, slotTexts_append_of_le hle]

/-! ### Two loops over offsets -/

/-- The first offset, from a given one on, of a slot that holds a text, or the first one beyond the
last slot. -/
def seek (body : Bytes) (delimiter : String) (last : Int) (offset : Nat) : Nat :=
  if offset ≤ last ∧ slotText (body.drop offset) ≠ delimiter then
    seek body delimiter last (offset + 16)
  else offset
termination_by (last + 1 - offset).toNat
decreasing_by omega

/-- The texts of the slots from an offset on, up to a marked one or the last. -/
def collect (body : Bytes) (last : Int) (offset : Nat) : List String :=
  if offset ≤ last then
    if isMarked (slotText (body.drop offset)) then []
    else slotText (body.drop offset) :: collect body last (offset + 16)
  else []
termination_by (last + 1 - offset).toNat
decreasing_by omega

/-- A list read in place: look for the delimiter, then collect what follows it. -/
def scan (body : Bytes) (delimiter : String) : Except Fault (List String) :=
  let last : Int := body.length - 16
  let found := seek body delimiter last 0
  if last < found then .error (.malformed (.listMissing delimiter))
  else .ok (collect body last (found + 16))

theorem collect_eq (body : Bytes) {k n : Nat} (h : k + n = slotCount body) :
    collect body (body.length - 16) (16 * k) = identifiersFrom n (body.drop (16 * k)) := by
  unfold slotCount slotSize at h
  induction n generalizing k with
  | zero => rw [collect, if_neg (by omega), identifiersFrom]
  | succ n ih =>
    rw [collect, if_pos (by omega), identifiersFrom, List.drop_drop]
    rw [show 16 * k + 16 = 16 * (k + 1) by omega, ih (by omega)]
    rfl

theorem seek_eq (body : Bytes) (delimiter : String) {k n : Nat} (h : k + n = slotCount body) :
    ∃ j, seek body delimiter (body.length - 16) (16 * k) = 16 * j ∧
      identifiersAfter? delimiter n (body.drop (16 * k)) =
        if j < slotCount body then some (collect body (body.length - 16) (16 * j + 16))
        else none := by
  induction n generalizing k with
  | zero =>
    refine ⟨k, ?_, ?_⟩
    · unfold slotCount slotSize at h
      rw [seek, if_neg (by omega)]
    · rw [identifiersAfter?, if_neg (by omega)]
  | succ n ih =>
    have hcount := h
    unfold slotCount slotSize at hcount
    by_cases hfound : slotText (body.drop (16 * k)) = delimiter
    · refine ⟨k, ?_, ?_⟩
      · rw [seek, if_neg (by simp [hfound])]
      · have hcollect := collect_eq body (k := k + 1) (n := n) (by omega)
        rw [identifiersAfter?, if_pos hfound, if_pos (by omega), List.drop_drop,
          show 16 * k + 16 = 16 * (k + 1) by omega, hcollect]
        rfl
    · obtain ⟨j, hseek, hafter⟩ := ih (k := k + 1) (by omega)
      refine ⟨j, ?_, ?_⟩
      · rw [seek, if_pos ⟨by omega, hfound⟩, show 16 * k + 16 = 16 * (k + 1) by omega, hseek]
      · rw [identifiersAfter?, if_neg hfound, List.drop_drop, ← hafter]
        rfl

/-- The loops over offsets read what `unpack` reads. -/
theorem scan_eq_unpack (body : Bytes) (delimiter : String) :
    scan body delimiter = unpack body delimiter := by
  obtain ⟨j, hseek, hafter⟩ := seek_eq body delimiter (Nat.zero_add (slotCount body))
  have hlast : ((body.length : Int) - 16 < (16 * j : Nat)) ↔ ¬ j < slotCount body := by
    unfold slotCount slotSize
    omega
  rw [Nat.mul_zero] at hseek hafter
  rw [List.drop_zero] at hafter
  simp only [scan, hseek, unpack, hafter, hlast]
  split <;> simp_all

/-- **What is read of every body under every delimiter.** It is what follows the delimiter among the
texts of the whole slots, and the body is malformed if none of them is the delimiter. Two loops over
offsets come to the same. Bytes that complete no further slot can be added to the body. -/
theorem unpack_exact (body : Bytes) (delimiter : String) :
    unpack body delimiter = listAfter ((wholeSlots body).map slotCharacters) delimiter ∧
    scan body delimiter = listAfter ((wholeSlots body).map slotCharacters) delimiter ∧
    ∀ tail : Bytes, body.length % 16 + tail.length < 16 →
      unpack (body ++ tail) delimiter = unpack body delimiter := by
  refine ⟨unpack_eq_listAfter body delimiter, ?_, fun tail htail => unpack_append htail delimiter⟩
  rw [scan_eq_unpack, unpack_eq_listAfter]

/-- A name with a zero byte inside, a vacant slot, and a mark that ends no list. Two bytes are left
over, and thirteen more do not complete a slot. -/
theorem unpack_exact_leftover :
    ∃ body tail : Bytes, body.length = 82 ∧ tail.length = 13 ∧
      unpack (body ++ tail) "#TEAMS" = .ok ["Red\x00Team", "", "Blue#"] ∧
      unpack (body ++ tail) "" = .ok ["Blue#"] ∧
      unpack (body ++ tail) "Blue" = .error (.malformed (.listMissing "Blue")) ∧
      scan (body.drop 80) "#T" = .error (.malformed (.listMissing "#T")) := by
  let slot (s : String) : Bytes := padSlot (Latin1.encodeLossy s)
  let body : Bytes :=
    slot "#TEAMS" ++ slot "Red\x00Team" ++ slot "" ++ slot "Blue#" ++ slot "#" ++ [0x23, 0x54]
  let tail : Bytes := List.replicate 13 0x41
  have hteams := (unpack_exact body "#TEAMS").2.2 tail (by decide)
  have hvacant := (unpack_exact body "").2.2 tail (by decide)
  have hmissing := (unpack_exact body "Blue").2.2 tail (by decide)
  have hshort := (unpack_exact (body.drop 80) "#T").2.1
  refine ⟨body, tail, rfl, rfl, hteams.trans ?_, hvacant.trans ?_, hmissing.trans ?_,
    hshort.trans ?_⟩
  all_goals decide +kernel

end Wire

end TeamPresence
