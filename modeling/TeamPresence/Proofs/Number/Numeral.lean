import Mathlib.Data.List.TakeWhile
import Mathlib.Data.Nat.Digits.Defs
import TeamPresence.Number.Numeral

/-!
# Numerals that are written and read

A natural number is written in decimal with ASCII digits, and is read back from them
(`integer_toString`) as long as it has no more digits than are read.

A text of digit-like characters is read by its decimal digits, of whatever scripts they are
(`integer_of_isPlain`, `fold_of_digitValue?`, `value_map_fold`). A character that only has the shape
of a digit is none of them (`fold_of_digitShapes`).
-/

namespace TeamPresence.Numeral

theorem of_isDigit {c : Char} (h : c.isDigit = true) :
    fold c = c ∧ isMargin c = false ∧ c ≠ '-' ∧ c ≠ '+' ∧ c ≠ '_' := by
  simp only [Char.isDigit, Bool.and_eq_true, decide_eq_true_eq, UInt32.le_iff_toNat_le,
    ge_iff_le] at h
  have hval : c.toNat = c.val.toNat := rfl
  have h0 : '0'.val.toNat = 48 := rfl
  have h9 : '9'.val.toNat = 57 := rfl
  refine ⟨?_, ?_, ?_, ?_, ?_⟩
  · rw [fold, if_pos (by omega)]
  · rw [isMargin, Bool.or_eq_false_iff, Bool.and_eq_false_iff, decide_eq_false_iff_not,
      decide_eq_false_iff_not, beq_eq_false_iff_ne]
    refine ⟨?_, by omega⟩
    rintro rfl
    exact absurd h (by decide)
  all_goals
    rintro rfl
    exact absurd h (by decide)

theorem isGrouped_of_isDigit {cs : List Char} (h : ∀ c ∈ cs, c.isDigit = true) (before : Bool) :
    isGrouped before cs = true := by
  induction cs generalizing before with
  | nil => rfl
  | cons c rest ih =>
    have hc := (of_isDigit (h c List.mem_cons_self)).2.2.2.2
    have hrest := ih (fun d hd => h d (List.mem_cons_of_mem _ hd)) c.isDigit
    cases rest <;> simp_all [isGrouped]

/-- A character that is no white space, no sign and no low line. -/
def IsPlain (c : Char) : Prop := isMargin c = false ∧ c ≠ '-' ∧ c ≠ '+' ∧ c ≠ '_'

theorem isPlain_of_isDigit {c : Char} (h : c.isDigit = true) : IsPlain c := (of_isDigit h).2

theorem takeSign_of_isPlain {cs : List Char} (h : ∀ c ∈ cs, IsPlain c) :
    takeSign cs = (false, cs) := by
  cases cs with
  | nil => rfl
  | cons c rest =>
    obtain ⟨-, hminus, hplus, -⟩ := h c List.mem_cons_self
    simp [takeSign, hminus, hplus]

theorem dropWhile_isMargin_of_isPlain {cs : List Char} (h : ∀ c ∈ cs, IsPlain c) :
    cs.dropWhile isMargin = cs := by
  cases cs with
  | nil => rfl
  | cons c rest => simp [(h c List.mem_cons_self).1]

theorem takeWhile_congr {cs : List Char} {p q : Char → Bool} (h : ∀ c ∈ cs, p c = q c) :
    cs.takeWhile p = cs.takeWhile q ∧ cs.dropWhile p = cs.dropWhile q := by
  induction cs with
  | nil => exact ⟨rfl, rfl⟩
  | cons c rest ih =>
    obtain ⟨htake, hdrop⟩ := ih fun d hd => h d (List.mem_cons_of_mem _ hd)
    simp [List.takeWhile_cons, List.dropWhile_cons, h c List.mem_cons_self, htake, hdrop]

/-- **A plain text is read by its digits**: up to the first character that is none. -/
theorem integer_of_isPlain {s : String} (h : ∀ c ∈ s.toList.map fold, IsPlain c) :
    integer s =
      (let digits := (s.toList.map fold).takeWhile Char.isDigit
      if digits.isEmpty then .error .malformed
      else if maxDigits < digits.length then .error (.tooLong digits.length)
      else if ((s.toList.map fold).dropWhile Char.isDigit).isEmpty then .ok (value digits)
      else .error .malformed) := by
  have hline : ∀ c ∈ s.toList.map fold, (c.isDigit || c == '_') = c.isDigit := by
    intro c hc
    rw [beq_eq_false_iff_ne.mpr (h c hc).2.2.2, Bool.or_false]
  obtain ⟨htake, hdrop⟩ := takeWhile_congr hline
  have hall : ∀ c ∈ (s.toList.map fold).takeWhile Char.isDigit, c.isDigit = true :=
    fun c hc => List.mem_takeWhile_imp hc
  have hafter : ∀ c ∈ (s.toList.map fold).dropWhile Char.isDigit, IsPlain c :=
    fun c hc => h c ((List.dropWhile_sublist _).mem hc)
  simp only [integer, dropWhile_isMargin_of_isPlain h, takeSign_of_isPlain h, htake, hdrop,
    List.filter_eq_self.mpr hall, isGrouped_of_isDigit hall,
    dropWhile_isMargin_of_isPlain hafter, Bool.not_true, Bool.or_false, Bool.false_eq_true, if_false]
  cases ((s.toList.map fold).dropWhile Char.isDigit).isEmpty <;> rfl

theorem integer_of_isDigit {cs : List Char} (h : ∀ c ∈ cs, c.isDigit = true) (hne : cs ≠ [])
    (hlen : cs.length ≤ maxDigits) : integer (String.ofList cs) = .ok (value cs) := by
  have hfold : (String.ofList cs).toList.map fold = cs := by
    rw [String.toList_ofList]
    exact (List.map_congr_left fun c hc => (of_isDigit (h c hc)).1).trans (List.map_id _)
  rw [integer_of_isPlain (by rw [hfold]; exact fun c hc => isPlain_of_isDigit (h c hc)), hfold,
    List.takeWhile_eq_self_iff.mpr h, List.dropWhile_eq_nil_iff.mpr h]
  simp [hne, Nat.not_lt.mpr hlen]

theorem integer_toString {n : Nat} (h : (toString n).length ≤ maxDigits) :
    integer (toString n) = .ok n := by
  rw [Nat.toString_eq_ofList_toDigits] at h ⊢
  rw [integer_of_isDigit (fun c hc => Nat.isDigit_of_mem_toDigits (by decide) (by decide) hc)
    Nat.toDigits_ne_nil (by simpa using h)]
  exact congrArg (fun n : Nat => Except.ok (n : Int))
    (Nat.ofDigitChars_toDigits (b := 10) (by decide) (by decide))

/-! ## Digits of every script -/

theorem of_digitValue? {c : Char} {d : Nat} (h : Text.digitValue? c = some d) :
    ∃ z ∈ Text.zeros, c.toNat = z + d ∧ d < 10 := by
  unfold Text.digitValue? at h
  obtain ⟨z, hz, rfl⟩ := Option.map_eq_some_iff.mp h
  have hbounds := List.find?_some hz
  rw [Bool.and_eq_true, decide_eq_true_eq, decide_eq_true_eq] at hbounds
  exact ⟨z, List.mem_of_find?_eq_some hz, by omega, by omega⟩

/-- No decimal digit is white space, and beyond ASCII no script has its zero. -/
theorem zeros_apart : ∀ z ∈ Text.zeros, (z = 0x30 ∨ 127 ≤ z) ∧
    ∀ r ∈ Text.blanks.ranges, z + 9 < r.1 ∨ r.2 < z := by
  decide

theorem shapes_apart : ∀ s ∈ Text.digitShapes.ranges, 127 ≤ s.1 ∧
    ∀ r ∈ Text.blanks.ranges, s.2 < r.1 ∨ r.2 < s.1 := by
  decide

theorem isBlank_eq_false {c : Char} (h : ∀ r ∈ Text.blanks.ranges, c.toNat < r.1 ∨ r.2 < c.toNat) :
    Text.isBlank c = false := by
  unfold Text.isBlank Text.CharSet.contains
  rw [List.any_eq_false]
  intro r hr
  have := h r hr
  simp only [Bool.and_eq_true, decide_eq_true_eq]
  omega

theorem toNat_ofNat_of_digit : ∀ d < 10, (Char.ofNat (0x30 + d)).toNat = 0x30 + d := by
  decide

theorem isDigit_of_toNat {c : Char} {d : Nat} (hc : c.toNat = 0x30 + d) (hd : d < 10) :
    c.isDigit = true := by
  have hval : c.toNat = c.val.toNat := rfl
  have h0 : '0'.val.toNat = 48 := rfl
  have h9 : '9'.val.toNat = 57 := rfl
  simp only [Char.isDigit, Bool.and_eq_true, decide_eq_true_eq, UInt32.le_iff_toNat_le, ge_iff_le]
  omega

theorem fold_of_digitValue? {c : Char} {d : Nat} (h : Text.digitValue? c = some d) :
    (fold c).toNat = 0x30 + d ∧ (fold c).isDigit = true := by
  obtain ⟨z, hz, hc, hd⟩ := of_digitValue? h
  obtain ⟨hascii, hblank⟩ := zeros_apart z hz
  have hfold : (fold c).toNat = 0x30 + d := by
    unfold fold
    by_cases hsmall : c.toNat < 127
    · rw [if_pos hsmall]
      omega
    · rw [if_neg hsmall, isBlank_eq_false fun r hr => by have := hblank r hr; omega, h]
      exact toNat_ofNat_of_digit d hd
  exact ⟨hfold, isDigit_of_toNat hfold hd⟩

theorem fold_of_digitShapes {c : Char} (h : Text.digitShapes.contains c = true)
    (hnone : Text.digitValue? c = none) : fold c = '?' := by
  unfold Text.CharSet.contains at h
  obtain ⟨s, hs, hbounds⟩ := List.any_eq_true.mp h
  rw [Bool.and_eq_true, decide_eq_true_eq, decide_eq_true_eq] at hbounds
  obtain ⟨hascii, hblank⟩ := shapes_apart s hs
  unfold fold
  rw [if_neg (by omega), isBlank_eq_false fun r hr => by have := hblank r hr; omega, hnone]
  rfl

theorem isDigit_fold_iff {c : Char} (h : Text.isDigitLike c = true) :
    (fold c).isDigit = true ↔ (Text.digitValue? c).isSome = true := by
  cases hd : Text.digitValue? c with
  | some d => simp [(fold_of_digitValue? hd).2]
  | none =>
    rw [fold_of_digitShapes (by simpa [Text.isDigitLike, hd] using h) hd]
    decide

theorem isPlain_fold {c : Char} (h : Text.isDigitLike c = true) : IsPlain (fold c) := by
  cases hd : Text.digitValue? c with
  | some d => exact isPlain_of_isDigit (fold_of_digitValue? hd).2
  | none =>
    rw [fold_of_digitShapes (by simpa [Text.isDigitLike, hd] using h) hd]
    exact ⟨by decide, by decide, by decide, by decide⟩

theorem value_map_fold {cs : List Char} (h : ∀ c ∈ cs, (Text.digitValue? c).isSome = true) :
    value (cs.map fold) = Nat.ofDigits 10 (cs.filterMap Text.digitValue?).reverse := by
  rw [Nat.ofDigits_eq_foldr, List.foldr_reverse, value]
  generalize 0 = n
  induction cs generalizing n with
  | nil => rfl
  | cons c rest ih =>
    obtain ⟨d, hd⟩ := Option.isSome_iff_exists.mp (h c List.mem_cons_self)
    rw [List.map_cons, List.foldl_cons, List.filterMap_cons_some hd, List.foldl_cons,
      (fold_of_digitValue? hd).1]
    rw [ih (fun d hd => h d (List.mem_cons_of_mem _ hd))]
    congr 1
    simp only [Nat.cast_id]
    omega

end TeamPresence.Numeral
