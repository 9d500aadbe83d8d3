import TeamPresence.Proofs.Wire.Categories
import TeamPresence.Wire.Reply

/-!
# Bodies of replies

What a client reads of the replies that a server writes: the names in a description
(`unpack_of_packDescription`), and the names and statuses of a roster (`unpackTeamStatus_of_pack`).
Both are round trips for entries that a slot can hold and give back, such as identifiers and the
empty name of a vacant slot. The names of a roster come back without the null characters at their
end whatever they are (`unpackTeamStatus_of_packTeamStatus`).
-/

namespace TeamPresence

namespace Wire

/-- An entry of a list that comes back as it was. -/
structure IsEntry (s : String) : Prop where
  plain : IsPlain s
  unmarked : isMarked s = false
  slot : ∃ b, slotOf s = .ok b

theorem isPlain_of_ne_null {s : String} (h : ∀ c ∈ s.toList, c ≠ '\x00') : IsPlain s :=
  trimNulls_eq_self h

end Wire

/-! ### Identifiers -/

theorem toNat_of_isIdentifierChar {c : Char} (h : isIdentifierChar c = true) :
    c.toNat = 32 ∨ 48 ≤ c.toNat ∧ c.toNat ≤ 122 := by
  have halnum : c.isAlphanum =
      (decide ('A'.val ≤ c.val ∧ c.val ≤ 'Z'.val) ||
        (decide ('a'.val ≤ c.val) && decide (c.val ≤ 'z'.val)) ||
        (decide ('0'.val ≤ c.val) && decide (c.val ≤ '9'.val))) := rfl
  simp only [isIdentifierChar, halnum, Bool.or_eq_true, Bool.and_eq_true, decide_eq_true_eq,
    beq_iff_eq, UInt32.le_iff_toNat_le] at h
  rcases h with h | rfl
  · have hval : c.toNat = c.val.toNat := rfl
    have hZ : 'Z'.val.toNat = 90 := rfl
    have hA : 'A'.val.toNat = 65 := rfl
    have ha : 'a'.val.toNat = 97 := rfl
    have hz : 'z'.val.toNat = 122 := rfl
    have h0 : '0'.val.toNat = 48 := rfl
    have h9 : '9'.val.toNat = 57 := rfl
    omega
  · exact Or.inl rfl

theorem isIdentifier_iff {s : String} :
    isIdentifier s = true ↔
      1 ≤ s.toList.length ∧ s.toList.length ≤ slotSize ∧
        ∀ c ∈ s.toList, isIdentifierChar c = true := by
  simp only [isIdentifier, Bool.and_eq_true, decide_eq_true_eq, List.all_eq_true, and_assoc]

namespace Wire

theorem isEntry_of_chars {s : String} (hlen : s.toList.length ≤ slotSize)
    (hchars : ∀ c ∈ s.toList, isIdentifierChar c = true) : IsEntry s := by
  have hcode : ∀ c ∈ s.toList, c.toNat = 32 ∨ 48 ≤ c.toNat ∧ c.toNat ≤ 122 :=
    fun c hc => toNat_of_isIdentifierChar (hchars c hc)
  constructor
  case plain =>
    refine isPlain_of_ne_null fun c hc e => ?_
    have hc := hcode c hc
    rw [e] at hc
    exact absurd hc (by decide)
  case unmarked =>
    rw [isMarked, beq_eq_false_iff_ne]
    intro e
    have hc := hcode mark (List.mem_of_mem_head? e)
    exact absurd hc (by decide)
  case slot =>
    have hall : ∀ c ∈ s.toList, Latin1.isEncodable c = true := fun c hc => by
      have hc := hcode c hc
      simp only [Latin1.isEncodable, decide_eq_true_eq]
      omega
    refine ⟨_, slotOf_eq_ok_iff.mpr ⟨_, Latin1.encode_eq_ok_iff.mpr ⟨hall, rfl⟩, ?_, rfl⟩⟩
    rwa [List.length_map]

theorem isEntry_of_isIdentifier {s : String} (h : isIdentifier s = true) : IsEntry s :=
  isEntry_of_chars (isIdentifier_iff.mp h).2.1 (isIdentifier_iff.mp h).2.2

theorem isEntry_empty : IsEntry "" := isEntry_of_chars (by decide) (by simp)

theorem map_trimNulls {names : List String} (h : ∀ n ∈ names, IsEntry n) :
    names.map trimNulls = names :=
  (List.map_congr_left fun n hn => (h n hn).plain).trans (List.map_id _)

theorem properCategory (delimiter : String) {names : List String}
    (hmark : isMarked delimiter = true) (hslot : ∃ b, slotOf delimiter = .ok b)
    (hnames : ∀ n ∈ names, IsEntry n) : Category.Proper ⟨delimiter, names⟩ := by
  refine ⟨hmark, fun n hn => (hnames n hn).unmarked, fun e he => slotOf_isOk_iff.mp ?_⟩
  rcases List.mem_cons.mp he with rfl | he
  · exact hslot
  · exact (hnames e he).slot

/-! ### Descriptions -/

theorem packDescription_isOk {teams statuses : List String} (hteams : ∀ n ∈ teams, IsEntry n)
    (hstatuses : ∀ n ∈ statuses, IsEntry n) :
    ∃ body, packDescription teams statuses = .ok body ∧
      body.length = slotSize * (teams.length + statuses.length + 2) + 1 := by
  have hproper : ∀ c ∈ [Category.mk teamsDelimiter teams, ⟨statusesDelimiter, statuses⟩],
      c.Proper := by
    simp only [List.forall_mem_cons]
    exact ⟨properCategory _ rfl ⟨_, rfl⟩ hteams, properCategory _ rfl ⟨_, rfl⟩ hstatuses, by simp⟩
  obtain ⟨body, hbody⟩ : ∃ body, packDescription teams statuses = .ok body :=
    pack_isOk_iff.mpr hproper
  refine ⟨body, hbody, ?_⟩
  rw [length_of_pack hbody]
  simp only [List.flatMap_cons, List.flatMap_nil, List.append_nil, Category.entries,
    List.length_append, List.length_cons, if_true]
  congr 2
  omega

theorem isPlain_teamsDelimiter : IsPlain teamsDelimiter :=
  isPlain_of_ne_null (by simp [teamsDelimiter])

theorem isPlain_statusesDelimiter : IsPlain statusesDelimiter :=
  isPlain_of_ne_null (by simp [statusesDelimiter])

theorem isPlain_usersDelimiter : IsPlain usersDelimiter :=
  isPlain_of_ne_null (by simp [usersDelimiter])

/-- The names in a description are read back. -/
theorem unpack_of_packDescription {teams statuses : List String} {body : Bytes}
    (h : packDescription teams statuses = .ok body) (hteams : ∀ n ∈ teams, IsEntry n)
    (hstatuses : ∀ n ∈ statuses, IsEntry n) :
    unpack body teamsDelimiter = .ok teams ∧ unpack body statusesDelimiter = .ok statuses := by
  have hteamsMark : trimNulls teamsDelimiter = teamsDelimiter := isPlain_teamsDelimiter
  have hstatusesMark : trimNulls statusesDelimiter = statusesDelimiter := isPlain_statusesDelimiter
  have hne : (teamsDelimiter == statusesDelimiter) = false := by decide
  refine ⟨(unpack_of_pack h (by decide)).trans ?_, (unpack_of_pack h (by decide)).trans ?_⟩
  · simp [hteamsMark, map_trimNulls hteams]
  · simp [hteamsMark, hstatusesMark, hne, map_trimNulls hstatuses]

/-! ### Rosters -/

theorem statusBytes_eq_ok_iff {statuses : List Int} {b : Bytes} :
    statusBytes statuses = .ok b ↔
      (∀ s ∈ statuses, 0 ≤ s ∧ s ≤ 255) ∧ b = statuses.map fun s => UInt8.ofNat s.toNat := by
  induction statuses generalizing b with
  | nil => simp [statusBytes, eq_comm]
  | cons s rest ih =>
    rw [statusBytes]
    by_cases hs : s < 0 ∨ 255 < s
    · rw [if_pos hs]
      simp only [throw_bind, reduceCtorEq, List.mem_cons, forall_eq_or_imp, false_iff]
      omega
    · rw [if_neg hs]
      simp only [pure_eq_ok, bind_eq_ok_iff, ih, Except.ok.injEq, List.mem_cons,
        forall_eq_or_imp, List.map_cons]
      constructor
      · rintro ⟨bytes, ⟨hrest, rfl⟩, rfl⟩
        exact ⟨⟨by omega, hrest⟩, rfl⟩
      · rintro ⟨⟨-, hrest⟩, rfl⟩
        exact ⟨_, ⟨hrest, rfl⟩, rfl⟩

theorem packTeamStatus_eq_ok_iff {names : List String} {statuses : List Int} {body : Bytes} :
    packTeamStatus names statuses = .ok body ↔
      names.length = statuses.length ∧ (∀ s ∈ statuses, 0 ≤ s ∧ s ≤ 255) ∧
        ∃ slots, pack [⟨usersDelimiter, names⟩] false = .ok slots ∧
          body = slots ++ statuses.map fun s => UInt8.ofNat s.toNat := by
  rw [packTeamStatus]
  by_cases hlength : names.length = statuses.length
  · simp only [hlength, ne_eq, not_true_eq_false, if_false, pure_eq_ok, bind_eq_ok_iff,
      statusBytes_eq_ok_iff, Except.ok.injEq, true_and]
    constructor
    · rintro ⟨slots, hslots, bytes, ⟨hstatuses, rfl⟩, rfl⟩
      exact ⟨hstatuses, slots, hslots, rfl⟩
    · rintro ⟨hstatuses, slots, hslots, rfl⟩
      exact ⟨slots, hslots, _, ⟨hstatuses, rfl⟩, rfl⟩
  · simp [hlength]

theorem unpackTeamStatus_append {slots bytes : Bytes}
    (hslots : slots.length = slotSize * (bytes.length + 1)) :
    unpackTeamStatus (slots ++ bytes) = (unpack slots usersDelimiter).bind fun names =>
      if names.length = bytes.length then .ok (names, bytes)
      else .error (.malformed (.teamStatusNames names.length bytes.length)) := by
  have hbody : (slots ++ bytes).length = slotSize + (slotSize + 1) * bytes.length := by
    rw [List.length_append, hslots, slotSize]
    omega
  have hsize : ((slots ++ bytes).length - slotSize) / (slotSize + 1) = bytes.length := by
    rw [hbody, Nat.add_sub_cancel_left, Nat.mul_div_cancel_left _ (by decide)]
  have hfits : ¬ ((slots ++ bytes).length < slotSize ∨
      ((slots ++ bytes).length - slotSize) % (slotSize + 1) ≠ 0) := by
    rw [hbody, Nat.add_sub_cancel_left, Nat.mul_mod_right]
    omega
  rw [unpackTeamStatus]
  simp only [hsize, if_neg hfits, pure_eq_ok, List.take_left' hslots, List.drop_left' hslots]
  cases unpack slots usersDelimiter with
  | error f => rfl
  | ok names =>
    by_cases hnames : names.length = bytes.length
    · simp [hnames, Except.bind]
    · simp [hnames, Except.bind]

theorem unpackTeamStatus_of_packTeamStatus {names : List String} {statuses : List Int}
    {body : Bytes} (h : packTeamStatus names statuses = .ok body) :
    ∃ bytes, unpackTeamStatus body = .ok (names.map trimNulls, bytes) ∧
      bytes.map (fun b => (b.toNat : Int)) = statuses := by
  obtain ⟨hlength, hstatuses, slots, hslots, rfl⟩ := packTeamStatus_eq_ok_iff.mp h
  generalize hbytes : (statuses.map fun s => UInt8.ofNat s.toNat) = bytes
  have hcount : bytes.length = names.length := by rw [← hbytes, List.length_map, hlength]
  have hsize : slots.length = slotSize * (bytes.length + 1) := by
    rw [length_of_pack hslots, hcount]
    simp [Category.entries]
  have hread : unpack slots usersDelimiter = .ok (names.map trimNulls) := by
    rw [unpack_of_pack hslots (by decide)]
    simp [show trimNulls usersDelimiter = usersDelimiter from isPlain_usersDelimiter]
  refine ⟨bytes, ?_, ?_⟩
  · rw [unpackTeamStatus_append hsize, hread]
    simp [Except.bind, hcount]
  · rw [← hbytes, List.map_map]
    refine (List.map_congr_left fun s hs => ?_).trans (List.map_id _)
    have hbound := hstatuses s hs
    simp only [Function.comp_apply, UInt8.toNat_ofNat', id_eq]
    omega

theorem packTeamStatus_isOk {names : List String} {statuses : List Int}
    (hlen : names.length = statuses.length) (hnames : ∀ n ∈ names, IsEntry n)
    (hstatuses : ∀ s ∈ statuses, 0 ≤ s ∧ s ≤ 255) :
    ∃ body, packTeamStatus names statuses = .ok body := by
  have hproper := properCategory usersDelimiter rfl ⟨_, rfl⟩ hnames
  obtain ⟨slots, hslots⟩ : ∃ slots, pack [⟨usersDelimiter, names⟩] false = .ok slots :=
    pack_isOk_iff.mpr (List.forall_mem_singleton.mpr hproper)
  exact ⟨_, packTeamStatus_eq_ok_iff.mpr ⟨hlen, hstatuses, slots, hslots, rfl⟩⟩

/-- The names and statuses of a roster are read back. -/
theorem unpackTeamStatus_of_pack {names : List String} {statuses : List Int} {body : Bytes}
    (h : packTeamStatus names statuses = .ok body) (hnames : ∀ n ∈ names, IsEntry n) :
    body.length = slotSize + (slotSize + 1) * names.length ∧
      unpackTeamStatus body = .ok (names, statuses.map fun s => UInt8.ofNat s.toNat) := by
  obtain ⟨bytes, hread, hbytes⟩ := unpackTeamStatus_of_packTeamStatus h
  obtain ⟨hlength, -, slots, hslots, rfl⟩ := packTeamStatus_eq_ok_iff.mp h
  have hsame : (statuses.map fun s => UInt8.ofNat s.toNat) = bytes := by
    rw [← hbytes, List.map_map]
    refine (List.map_congr_left fun b _ => ?_).trans (List.map_id _)
    rw [Function.comp_apply, Int.toNat_natCast, UInt8.ofNat_toNat, id_eq]
  constructor
  · rw [List.length_append, length_of_pack hslots, List.length_map, ← hlength, slotSize]
    simp [Category.entries]
    omega
  · rw [hread, map_trimNulls hnames, hsame]

end Wire

end TeamPresence
