import TeamPresence.Proofs.Wire.Bodies

/-!
# Team status bodies, in both directions

A body is the slots of a delimiter and of the names, and then a status byte for each name. Its
length tells where the slots end (`unpackTeamStatus_cases`), so no status byte is ever taken for a
part of a slot.

**`teamStatus_exact`**: what was packed is read back, up to the null characters at the end of a
name; and what can be read is what packing makes of what is read. Any other bytes are malformed.
-/

namespace TeamPresence

namespace Latin1

theorem toNat_charOf (b : UInt8) : (charOf b).toNat = b.toNat := by
  have hlt := b.toNat_lt
  have hvalid : b.toNat.isValidChar := Or.inl (by omega)
  rw [charOf, Char.ofNat, dif_pos hvalid]
  rfl

theorem encode_decode (b : Bytes) : encode (decode b) = .ok b := by
  rw [encode_eq_ok_iff, decode, String.toList_ofList, List.map_map]
  have hback : byteOf ∘ charOf = id := by
    funext x
    rw [Function.comp_apply, byteOf, toNat_charOf, UInt8.ofNat_toNat, id_eq]
  refine ⟨fun c hc => ?_, by rw [hback, List.map_id]⟩
  obtain ⟨x, -, rfl⟩ := List.mem_map.mp hc
  have hlt := x.toNat_lt
  simp only [isEncodable, toNat_charOf, decide_eq_true_eq]
  omega

end Latin1

theorem length_trimZeros_le (b : Bytes) : (trimZeros b).length ≤ b.length := by
  induction b with
  | nil => exact Nat.le_refl 0
  | cons x rest ih =>
    rw [trimZeros]
    split
    · split <;> simp
    · next kept hkept =>
      simp only [List.length_cons] at ih ⊢
      omega

theorem trimZeros_append_zeros (b : Bytes) :
    trimZeros b ++ List.replicate (b.length - (trimZeros b).length) 0 = b := by
  induction b with
  | nil => rfl
  | cons x rest ih =>
    rw [trimZeros]
    cases hkept : trimZeros rest with
    | nil =>
      have hzeros : List.replicate rest.length 0 = rest := by simpa [hkept] using ih
      by_cases hx : x = 0
      · simp [hx, List.replicate_succ, hzeros]
      · simp [hx, hzeros]
    | cons y ys =>
      rw [hkept] at ih
      simpa using ih

namespace Wire

/-! ### Slots -/

theorem padSlot_trimZeros {b : Bytes} (h : b.length = slotSize) : padSlot (trimZeros b) = b := by
  rw [padSlot, ← h, trimZeros_append_zeros]

theorem slotOf_slotText {body : Bytes} (h : slotSize ≤ body.length) :
    slotOf (slotText body) = .ok (body.take slotSize) := by
  have hlength : (body.take slotSize).length = slotSize := List.length_take_of_le h
  have hle := length_trimZeros_le (body.take slotSize)
  rw [slotOf_eq_ok_iff, slotText, textOf]
  refine ⟨_, Latin1.encode_decode _, ?_, (padSlot_trimZeros hlength).symm⟩
  omega

theorem packIdentifiers_slotTexts {n : Nat} {b : Bytes} (hlength : b.length = slotSize * n)
    (hunmarked : ∀ t ∈ slotTexts n b, isMarked t = false) :
    packIdentifiers (slotTexts n b) = .ok b := by
  induction n generalizing b with
  | zero =>
    have hnil : b = [] := List.length_eq_zero_iff.mp hlength
    rw [hnil]
    rfl
  | succ n ih =>
    have hle : slotSize ≤ b.length := by
      rw [hlength]
      exact Nat.le_mul_of_pos_right _ (Nat.succ_pos n)
    have hrest : (b.drop slotSize).length = slotSize * n := by
      rw [List.length_drop, hlength, Nat.mul_succ]
      omega
    rw [slotTexts, List.forall_mem_cons] at hunmarked
    have htail := ih hrest hunmarked.2
    rw [slotTexts, packIdentifiers, slotOf_slotText hle, htail, hunmarked.1]
    simp

theorem eq_cons_of_namesAfter? {delimiter : String} {texts names : List String}
    (h : namesAfter? delimiter texts = some names) (hlength : texts.length ≤ names.length + 1) :
    texts = delimiter :: names ∧ ∀ n ∈ names, isMarked n = false := by
  rw [namesAfter?] at h
  split at h
  · cases h
  · next first rest hfound =>
    obtain rfl := Option.some.inj h
    have hsuffix : first :: rest <:+ texts := hfound ▸ List.dropWhile_suffix _
    have hprefix : (rest.takeWhile fun t => !isMarked t) <+: rest := List.takeWhile_prefix _
    have hnames := hprefix.length_le
    have hrest := hsuffix.length_le
    rw [List.length_cons] at hrest
    -- there is just room for the delimiter and the names
    have hall : first :: rest = texts :=
      hsuffix.eq_of_length_le (by simp only [List.length_cons]; omega)
    have hkept : (rest.takeWhile fun t => !isMarked t) = rest := hprefix.eq_of_length_le (by omega)
    have hfirst : first = delimiter := by
      have hne : texts.dropWhile (fun t => t != delimiter) ≠ [] := by simp [hfound]
      have hhead := List.head_dropWhile_not (fun t => t != delimiter) hne
      simpa [hfound] using hhead
    rw [hkept, ← hall, hfirst]
    refine ⟨rfl, fun n hn => ?_⟩
    simpa using List.takeWhile_eq_self_iff.mp hkept n hn

/-! ### Bodies -/

/-- Bytes are of no fit length, or are slots and a byte for each but the first. -/
theorem unpackTeamStatus_cases (body : Bytes) :
    unpackTeamStatus body = .error (.malformed (.teamStatusSize body.length)) ∨
      ∃ slots bytes, body = slots ++ bytes ∧ slots.length = slotSize * (bytes.length + 1) := by
  by_cases hfits : body.length < slotSize ∨ (body.length - slotSize) % (slotSize + 1) ≠ 0
  · refine Or.inl ?_
    rw [unpackTeamStatus]
    simp only [if_pos hfits]
    rfl
  · refine Or.inr ⟨_, _, (List.take_append_drop
      (slotSize * ((body.length - slotSize) / (slotSize + 1) + 1)) body).symm, ?_⟩
    have hdivide := Nat.div_add_mod (body.length - slotSize) (slotSize + 1)
    simp only [slotSize] at hfits hdivide ⊢
    rw [List.length_take, List.length_drop]
    omega

theorem length_slotTexts (n : Nat) (b : Bytes) : (slotTexts n b).length = n := by
  induction n generalizing b with
  | zero => rfl
  | succ n ih => rw [slotTexts, List.length_cons, ih]

theorem pack_singleton {delimiter : String} {names : List String} {slot slots : Bytes}
    (hmark : isMarked delimiter = true) (hslot : slotOf delimiter = .ok slot)
    (hslots : packIdentifiers names = .ok slots) :
    pack [⟨delimiter, names⟩] false = .ok (slot ++ slots) := by
  simp [pack, packCategories, packCategory, hmark, hslot, hslots, terminator]

theorem pack_of_unpack {slots : Bytes} {delimiter : String} {names : List String}
    (hmark : isMarked delimiter = true) (hlength : slots.length = slotSize * (names.length + 1))
    (h : unpack slots delimiter = .ok names) :
    (∀ n ∈ names, isMarked n = false) ∧ pack [⟨delimiter, names⟩] false = .ok slots := by
  have hle : slotSize ≤ slots.length := by
    rw [hlength]
    exact Nat.le_mul_of_pos_right _ (Nat.succ_pos _)
  have hcount : slotCount slots = names.length + 1 := by
    rw [slotCount, hlength, Nat.mul_div_cancel_left _ (by decide)]
  have hfound : namesAfter? delimiter (slotTexts (names.length + 1) slots) = some names := by
    rw [unpack_eq, hcount] at h
    split at h
    · next found hfound => rw [hfound, Except.ok.inj h]
    · cases h
  obtain ⟨htexts, hunmarked⟩ := eq_cons_of_namesAfter? hfound (length_slotTexts _ _).le
  rw [slotTexts] at htexts
  obtain ⟨hfirst, hrest⟩ := List.cons.inj htexts
  have hslot : slotOf delimiter = .ok (slots.take slotSize) := hfirst ▸ slotOf_slotText hle
  have hdrop : (slots.drop slotSize).length = slotSize * names.length := by
    rw [List.length_drop, hlength, Nat.mul_succ, Nat.add_sub_cancel]
  have hslots : packIdentifiers names = .ok (slots.drop slotSize) := by
    have hpacked := packIdentifiers_slotTexts hdrop (by rw [hrest]; exact hunmarked)
    rwa [hrest] at hpacked
  have hpack := pack_singleton hmark hslot hslots
  rw [List.take_append_drop] at hpack
  exact ⟨hunmarked, hpack⟩

/-- What is read is packed again to what it was read of. -/
theorem packTeamStatus_of_unpackTeamStatus {body : Bytes} {names : List String}
    {statuses : List UInt8} (h : unpackTeamStatus body = .ok (names, statuses)) :
    names.length = statuses.length ∧
      body.length = slotSize + (slotSize + 1) * names.length ∧
      (∀ n ∈ names, isMarked n = false) ∧
      packTeamStatus names (statuses.map fun b => (b.toNat : Int)) = .ok body := by
  rcases unpackTeamStatus_cases body with hsize | ⟨slots, bytes, rfl, hslots⟩
  · rw [hsize] at h
    cases h
  · rw [unpackTeamStatus_append hslots] at h
    obtain ⟨found, hread, hfits⟩ := bind_eq_ok_iff.mp h
    split at hfits
    · next hlength =>
      cases hfits
      obtain ⟨hunmarked, hpack⟩ := pack_of_unpack (by decide) (hlength ▸ hslots) hread
      refine ⟨hlength, ?_, hunmarked, packTeamStatus_eq_ok_iff.mpr ⟨?_, ?_, slots, hpack, ?_⟩⟩
      · rw [List.length_append, hslots, hlength, slotSize]
        omega
      · rw [hlength, List.length_map]
      · intro s hs
        obtain ⟨b, -, rfl⟩ := List.mem_map.mp hs
        have hlt := b.toNat_lt
        omega
      · rw [List.map_map]
        refine congrArg (slots ++ ·) (Eq.symm ?_)
        refine (List.map_congr_left fun b _ => ?_).trans (List.map_id _)
        rw [Function.comp_apply, Int.toNat_natCast, UInt8.ofNat_toNat, id_eq]
    · cases hfits

theorem unpackTeamStatus_eq_error {body : Bytes} {f : Fault}
    (h : unpackTeamStatus body = .error f) : ∃ cause, f = .malformed cause := by
  rcases unpackTeamStatus_cases body with hsize | ⟨slots, bytes, rfl, hslots⟩
  · rw [hsize] at h
    cases h
    exact ⟨_, rfl⟩
  · rw [unpackTeamStatus_append hslots] at h
    rcases bind_eq_error_iff.mp h with h | ⟨found, -, hfits⟩
    · rw [unpack_eq] at h
      split at h
      · cases h
      · cases h
        exact ⟨_, rfl⟩
    · split at hfits
      · cases hfits
      · cases hfits
        exact ⟨_, rfl⟩

/-- **Team status bodies are exact in both directions.** Whatever the status bytes are, what was
packed is read back, up to the null characters at the end of a name. Bytes that can be read are the
packing of what is read of them; all others are malformed, and no packing. -/
theorem teamStatus_exact :
    (∀ names statuses body, packTeamStatus names statuses = .ok body →
      ∃ bytes, unpackTeamStatus body = .ok (names.map trimNulls, bytes) ∧
        bytes.map (fun b => (b.toNat : Int)) = statuses) ∧
    ∀ body : Bytes,
      match unpackTeamStatus body with
      | .ok (names, statuses) =>
        names.length = statuses.length ∧
          body.length = slotSize + (slotSize + 1) * names.length ∧
          (∀ n ∈ names, isMarked n = false) ∧
          packTeamStatus names (statuses.map fun b => (b.toNat : Int)) = .ok body
      | .error f =>
        (∃ cause, f = .malformed cause) ∧
          ∀ names statuses, packTeamStatus names statuses ≠ .ok body := by
  refine ⟨fun names statuses body => unpackTeamStatus_of_packTeamStatus, fun body => ?_⟩
  cases hread : unpackTeamStatus body with
  | ok found => exact packTeamStatus_of_unpackTeamStatus hread
  | error f =>
    refine ⟨unpackTeamStatus_eq_error hread, fun names statuses hpack => ?_⟩
    obtain ⟨bytes, hback, -⟩ := unpackTeamStatus_of_packTeamStatus hpack
    cases hread.symm.trans hback

/-- The status bytes of sixteen vacant slots may spell the slot of a delimiter. -/
theorem teamStatus_exact_spelled :
    ∃ body bytes,
      packTeamStatus (List.replicate 16 "") ([35, 85, 83, 69, 82, 83] ++ List.replicate 10 0) =
        .ok body ∧
      unpackTeamStatus body = .ok (List.replicate 16 "", bytes) ∧
      slotOf usersDelimiter = .ok bytes := by
  obtain ⟨body, hbody⟩ : ∃ body,
      packTeamStatus (List.replicate 16 "") ([35, 85, 83, 69, 82, 83] ++ List.replicate 10 0) =
        .ok body := ⟨_, rfl⟩
  obtain ⟨bytes, hread, hstatuses⟩ := teamStatus_exact.1 _ _ _ hbody
  refine ⟨body, bytes, hbody, hread, ?_⟩
  have hbytes : bytes = [35, 85, 83, 69, 82, 83] ++ List.replicate 10 0 := by
    refine List.map_injective_iff.mpr (fun a b h => ?_) hstatuses
    exact UInt8.toNat_inj.mp (Int.ofNat_inj.mp h)
  rw [hbytes]
  rfl

end Wire

end TeamPresence
