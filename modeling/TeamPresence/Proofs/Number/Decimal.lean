import Mathlib.Data.List.DropRight
import TeamPresence.Number.Decimal
import TeamPresence.Proofs.Number.Numeral

/-!
# Texts that are read as not-a-number

`Decimal.read?` gives a number or an infinity for every text with digits in it, however large or
small the number is. Not-a-number comes of its name alone: **`read?_eq_nan_iff`** says which texts
those are, character by character.
-/

namespace TeamPresence

/-! ### Taking off the ends -/

namespace Text

variable {α : Type} {p : α → Bool}

theorem exists_eq_append_dropEnds (p : α → Bool) (l : List α) :
    ∃ before after, l = before ++ (dropEnds p l ++ after) ∧
      (∀ c ∈ before, p c = true) ∧ ∀ c ∈ after, p c = true := by
  refine ⟨l.takeWhile p, (l.dropWhile p).rtakeWhile p, ?_, fun c hc => List.mem_takeWhile_imp hc,
    fun c hc => List.mem_rtakeWhile_imp hc⟩
  rw [show dropEnds p l = (l.dropWhile p).rdropWhile p from rfl, List.rdropWhile_append_rtakeWhile,
    List.takeWhile_append_dropWhile]

theorem dropEnds_append {before body after : List α} (hbefore : ∀ c ∈ before, p c = true)
    (hbody : ∀ c ∈ body, p c = false) (hafter : ∀ c ∈ after, p c = true) :
    dropEnds p (before ++ (body ++ after)) = body := by
  have hkept : ∀ {l : List α}, (∀ c ∈ l, p c = false) → l.dropWhile p = l := by
    intro l hl
    cases l with
    | nil => rfl
    | cons c rest => rw [List.dropWhile_cons_of_neg (by simp [hl c List.mem_cons_self])]
  unfold dropEnds
  rw [List.dropWhile_append_of_pos hbefore, List.dropWhile_append, hkept hbody]
  by_cases hempty : body.isEmpty = true
  · rw [if_pos hempty, List.dropWhile_eq_nil_iff.mpr hafter, List.isEmpty_iff.mp hempty]
    rfl
  · rw [if_neg hempty, List.reverse_append, List.dropWhile_append_of_pos (by simpa using hafter),
      hkept (by simpa using hbody), List.reverse_reverse]

end Text

/-! ### Characters after folding -/

namespace Numeral

theorem fold_cases (c : Char) :
    fold c = c ∨ fold c = ' ' ∨ (fold c).isDigit = true ∨ fold c = '?' := by
  by_cases hsmall : c.toNat < 127
  · left
    rw [fold, if_pos hsmall]
  · by_cases hblank : Text.isBlank c = true
    · right; left
      rw [fold, if_neg hsmall, if_pos hblank]
    · cases hd : Text.digitValue? c with
      | some d => exact Or.inr (Or.inr (Or.inl (fold_of_digitValue? hd).2))
      | none =>
        right; right; right
        rw [fold, if_neg hsmall, if_neg hblank, hd]

/-- The characters that only one character is folded to: itself. -/
def IsFixed (c : Char) : Prop := c ≠ ' ' ∧ c.isDigit = false ∧ c ≠ '?' ∧ c.toNat < 127

theorem fold_eq_iff {c d : Char} (h : IsFixed d) : fold c = d ↔ c = d := by
  obtain ⟨hspace, hdigit, hmark, hsmall⟩ := h
  constructor
  · rintro rfl
    have hcases := fold_cases c
    simp only [hspace, hdigit, hmark, Bool.false_eq_true, or_false] at hcases
    exact hcases.symm
  · rintro rfl
    rw [fold, if_pos hsmall]

theorem map_fold_eq_iff {cs ds : List Char} (h : ∀ d ∈ ds, IsFixed d) :
    cs.map fold = ds ↔ cs = ds := by
  induction ds generalizing cs with
  | nil => simp
  | cons d rest ih =>
    obtain ⟨hd, hrest⟩ := List.forall_mem_cons.mp h
    cases cs with
    | nil => simp
    | cons c cs => rw [List.map_cons, List.cons.injEq, List.cons.injEq, fold_eq_iff hd, ih hrest]

theorem exists_isDigit_of_isGrouped {before : Bool} {cs : List Char}
    (h : isGrouped before cs = true) (hline : '_' ∈ cs) : ∃ c ∈ cs, c.isDigit = true := by
  fun_induction isGrouped before cs with
  | case1 => simp at hline
  | case2 before c rest ih =>
    simp only [Bool.and_eq_true] at h
    exact ⟨c, by simp, h.1.2⟩
  | case3 => simp at h
  | case4 before c rest hnext hlast ih =>
    rcases List.mem_cons.mp hline with rfl | hrest
    · cases rest with
      | nil => exact absurd rfl (hlast rfl)
      | cons d rest => exact absurd rfl (hnext d rest rfl)
    · obtain ⟨d, hd, hdigit⟩ := ih h hrest
      exact ⟨d, List.mem_cons_of_mem _ hd, hdigit⟩

end Numeral

/-! ### Digits make a number -/

namespace Binary64

theorem ofParts_ne_nan (negative : Bool) (mantissa : Nat) (e : Int) :
    ofParts negative mantissa e ≠ .nan := by
  simp only [ofParts]
  split <;> split <;> simp

theorem ofRatio_ne_nan (negative : Bool) (num den : Nat) : ofRatio negative num den ≠ .nan := by
  simp only [ofRatio]
  split
  · simp
  · exact ofParts_ne_nan _ _ _

theorem ofDecimal_ne_nan (negative : Bool) (digits : Nat) (e : Int) :
    ofDecimal negative digits e ≠ .nan := by
  simp only [ofDecimal]
  split
  · simp
  · split
    · simp
    · split <;> exact ofRatio_ne_nan _ _ _

end Binary64

namespace Decimal

open Numeral

theorem magnitude?_ne_nan (negative : Bool) (cs : List Char) :
    magnitude? negative cs ≠ some .nan := by
  unfold magnitude?
  grind [Binary64.ofDecimal_ne_nan]

/-! ### The name of not-a-number -/

/-- The three letters, each in either case. -/
def IsNanWord (word : List Char) : Prop := word.map Char.toLower = ['n', 'a', 'n']

theorem word?_eq_nan_iff (negative : Bool) {cs : List Char} :
    word? negative cs = some .nan ↔ IsNanWord cs := by
  have hword : (String.ofList (cs.map Char.toLower) = "nan") ↔ IsNanWord cs := by
    rw [← String.toList_inj, String.toList_ofList]
    rfl
  simp only [word?]
  split
  · next hinfinity =>
    simp only [Option.some.injEq, reduceCtorEq, false_iff]
    intro hnan
    rw [← hword] at hnan
    rcases hinfinity with h | h <;> exact absurd (h.symm.trans hnan) (by decide)
  · split <;> simp_all

theorem toNat_of_toLower {c d : Char} (h : c.toLower = d) : c = d ∨ c.toNat + 32 = d.toNat := by
  subst h
  unfold Char.toLower
  split
  · next hupper =>
    right
    rw [ge_iff_le, UInt32.le_iff_toNat_le, UInt32.le_iff_toNat_le] at hupper
    have hA : 'A'.val.toNat = 65 := rfl
    have hZ : 'Z'.val.toNat = 90 := rfl
    have hshift : ('a'.val - 'A'.val).toNat = 32 := rfl
    show c.val.toNat + 32 = (c.val + ('a'.val - 'A'.val)).toNat
    rw [UInt32.toNat_add, hshift]
    omega
  · exact Or.inl rfl

theorem IsNanWord.mem {word : List Char} (h : IsNanWord word) :
    ∀ c ∈ word, c ∈ ['n', 'N', 'a', 'A'] := by
  intro c hc
  have hlower : c.toLower = 'n' ∨ c.toLower = 'a' := by
    have hmem : c.toLower ∈ ['n', 'a', 'n'] := h ▸ List.mem_map_of_mem hc
    simp only [List.mem_cons, List.not_mem_nil, or_false] at hmem
    tauto
  have hN : 'N'.toNat + 32 = 'n'.toNat := rfl
  have hA : 'A'.toNat + 32 = 'a'.toNat := rfl
  rcases hlower with hn | ha
  · rcases toNat_of_toLower hn with rfl | hnat
    · simp
    · obtain rfl : c = 'N' := Char.toNat_inj.mp (by omega)
      simp
  · rcases toNat_of_toLower ha with rfl | hnat
    · simp
    · obtain rfl : c = 'A' := Char.toNat_inj.mp (by omega)
      simp

/-- The signs that a decimal may start with, and none. -/
def signs : List (List Char) := [[], ['+'], ['-']]

/-- A text that reads as not-a-number: its name in either case, after at most one sign, with white
space around. -/
def SpellsNan (text : String) : Prop :=
  ∃ before sign word after, text.toList = before ++ (sign ++ word ++ after) ∧
    (∀ c ∈ before, isMargin (fold c) = true) ∧ sign ∈ signs ∧ IsNanWord word ∧
    ∀ c ∈ after, isMargin (fold c) = true

/-- What a sign and a letter of the name are to a decimal: no margin, no digit and no low line. -/
theorem of_mem_nan {sign word : List Char} (hsign : sign ∈ signs) (hword : IsNanWord word) :
    ∀ c ∈ sign ++ word, IsFixed c ∧ isMargin c = false ∧ c ≠ '_' := by
  intro c hc
  have hmem : c ∈ ['+', '-', 'n', 'N', 'a', 'A'] := by
    rcases List.mem_append.mp hc with hc | hc
    · simp only [signs, List.mem_cons, List.not_mem_nil, or_false] at hsign
      rcases hsign with rfl | rfl | rfl <;> simp_all
    · have := hword.mem c hc
      simp only [List.mem_cons, List.not_mem_nil, or_false] at this ⊢
      tauto
  simp only [List.mem_cons, List.not_mem_nil, or_false] at hmem
  unfold IsFixed
  rcases hmem with rfl | rfl | rfl | rfl | rfl | rfl <;> decide

theorem takeSign_cases (cs : List Char) :
    ∃ sign ∈ signs, cs = sign ++ (takeSign cs).2 := by
  unfold takeSign signs
  split <;> simp

theorem takeSign_of_isNanWord {sign word : List Char} (hsign : sign ∈ signs)
    (hword : IsNanWord word) : (takeSign (sign ++ word)).2 = word := by
  simp only [signs, List.mem_cons, List.not_mem_nil, or_false] at hsign
  rcases hsign with rfl | rfl | rfl
  · cases word with
    | nil => rfl
    | cons c rest =>
      have hc := hword.mem c List.mem_cons_self
      have hplus : c ≠ '+' := by rintro rfl; exact absurd hc (by decide)
      have hminus : c ≠ '-' := by rintro rfl; exact absurd hc (by decide)
      simp [takeSign, hplus, hminus]
  · rfl
  · rfl

theorem filter_of_not_mem {cs : List Char} (h : '_' ∉ cs) : cs.filter (fun c => c != '_') = cs := by
  rw [List.filter_eq_self]
  rintro c hc
  rw [bne_iff_ne]
  rintro rfl
  exact h hc

theorem read?_eq_nan_iff_body {s : String} :
    read? s = some .nan ↔
      let body := Text.dropEnds isMargin (s.toList.map fold)
      ¬ (body.contains '_' && !isGrouped false body) = true ∧
        IsNanWord (takeSign (body.filter fun c => c != '_')).2 := by
  unfold read?
  generalize Text.dropEnds isMargin (s.toList.map fold) = body
  simp only
  split
  · simp_all
  · next hgrouped =>
    rw [and_iff_right hgrouped, ← word?_eq_nan_iff (takeSign (body.filter fun c => c != '_')).1,
      Option.or_eq_some_iff]
    simp [magnitude?_ne_nan]

/-- **A text is read as not-a-number exactly if it spells it.** -/
theorem read?_eq_nan_iff {s : String} : read? s = some .nan ↔ SpellsNan s := by
  rw [read?_eq_nan_iff_body]
  constructor
  · rintro ⟨hgrouped, hword⟩
    obtain ⟨before, after, htext, hbefore, hafter⟩ :=
      Text.exists_eq_append_dropEnds isMargin (s.toList.map fold)
    generalize hbody : Text.dropEnds isMargin (s.toList.map fold) = body at hgrouped hword htext
    obtain ⟨sign, hsign, hsigned⟩ := takeSign_cases (body.filter fun c => c != '_')
    generalize (takeSign (body.filter fun c => c != '_')).2 = word at hword hsigned
    have hfixed := of_mem_nan hsign hword
    have hline : '_' ∉ body := by
      intro hmem
      -- A low line needs a digit, and a digit would be left in the word.
      have hline : isGrouped false body = true := by simpa [hmem] using hgrouped
      obtain ⟨c, hc, hdigit⟩ := exists_isDigit_of_isGrouped hline hmem
      have hleft : c ∈ sign ++ word := by
        rw [← hsigned, List.mem_filter]
        exact ⟨hc, by simpa using (of_isDigit hdigit).2.2.2.2⟩
      exact absurd hdigit (by simp [(hfixed c hleft).1.2.1])
    rw [filter_of_not_mem hline] at hsigned
    rw [hsigned] at htext
    obtain ⟨first, rest, hsplit, hfirst, hrest⟩ := List.map_eq_append_iff.mp htext
    obtain ⟨middle, last, rfl, hmiddle, hlast⟩ := List.map_eq_append_iff.mp hrest
    obtain rfl := (map_fold_eq_iff fun c hc => (hfixed c hc).1).mp hmiddle
    refine ⟨first, sign, word, last, hsplit, ?_, hsign, hword, ?_⟩
    · intro c hc
      exact hbefore _ (hfirst ▸ List.mem_map_of_mem hc)
    · intro c hc
      exact hafter _ (hlast ▸ List.mem_map_of_mem hc)
  · rintro ⟨before, sign, word, after, htext, hbefore, hsign, hword, hafter⟩
    have hfixed := of_mem_nan hsign hword
    have hbody : Text.dropEnds isMargin (s.toList.map fold) = sign ++ word := by
      rw [htext, List.map_append, List.map_append,
        (map_fold_eq_iff fun c hc => (hfixed c hc).1).mpr rfl]
      exact Text.dropEnds_append (by simpa using hbefore) (fun c hc => (hfixed c hc).2.1)
        (by simpa using hafter)
    have hnone : '_' ∉ sign ++ word := fun hmem => (hfixed _ hmem).2.2 rfl
    have hcontains : (sign ++ word).contains '_' = false := by simpa using hnone
    simp only [hbody, hcontains, filter_of_not_mem hnone, takeSign_of_isNanWord hsign hword]
    exact ⟨by simp, hword⟩

end Decimal

end TeamPresence
