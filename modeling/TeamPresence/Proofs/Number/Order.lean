import Mathlib.Tactic.Linarith
import TeamPresence.Proofs.Number.Rounding

/-!
# Rounding keeps the order

A larger number is not rounded to a smaller one: `nearest_mono`. Numbers of one exponent are rounded
to whole multiples of the same power of two, in order (`roundRatio_mono`). A number of a higher
exponent has a mantissa of 53 bits, so what it is rounded to is at least any multiple that a lower
exponent allows (`rounded_mono`). What is too large for a number stays as it is, and is larger than
all that do not (`nearest_of_pos`).
-/

namespace TeamPresence.Binary64

/-! ### Whole numbers -/

/-- Rounding moves a ratio by a half at most, and by a half only to an even number. -/
theorem roundRatio_spec (num : Nat) {den : Nat} (hden : 0 < den) :
    (num : Rat) / den ≤ roundRatio num den + 1 / 2 ∧
      (roundRatio num den : Rat) - 1 / 2 ≤ (num : Rat) / den ∧
      ((num : Rat) / den = roundRatio num den + 1 / 2 ∨
        (num : Rat) / den = roundRatio num den - 1 / 2 → roundRatio num den % 2 = 0) := by
  have hpos : (0 : Rat) < den := by exact_mod_cast hden
  have hsplit : (num : Rat) / den = (num / den : Nat) + (num % den : Nat) / (den : Rat) := by
    rw [div_eq_iff hpos.ne', add_mul, div_mul_cancel₀ _ hpos.ne']
    exact_mod_cast (Nat.div_add_mod' num den).symm
  have hnonneg : (0 : Rat) ≤ (num % den : Nat) / (den : Rat) := by positivity
  have hlt : ((num % den : Nat) : Rat) / den < 1 := by
    rw [div_lt_one hpos]
    exact_mod_cast Nat.mod_lt num hden
  rw [hsplit, roundRatio]
  by_cases hbelow : 2 * (num % den) < den
  · have hhalf : ((num % den : Nat) : Rat) / den < 1 / 2 := by
      rw [div_lt_iff₀ hpos]
      have hcast : (2 : Rat) * (num % den : Nat) < den := by exact_mod_cast hbelow
      linarith
    simp only [if_pos hbelow]
    refine ⟨by linarith, by linarith, ?_⟩
    rintro (h | h) <;> linarith
  · by_cases habove : den < 2 * (num % den)
    · have hhalf : 1 / 2 < ((num % den : Nat) : Rat) / den := by
        rw [lt_div_iff₀ hpos]
        have hcast : (den : Rat) < 2 * (num % den : Nat) := by exact_mod_cast habove
        linarith
      simp only [if_neg hbelow, if_pos habove]
      push_cast
      refine ⟨by linarith, by linarith, ?_⟩
      rintro (h | h) <;> linarith
    · have hhalf : ((num % den : Nat) : Rat) / den = 1 / 2 := by
        rw [div_eq_iff hpos.ne']
        have hcast : (2 : Rat) * (num % den : Nat) = den := by
          exact_mod_cast Nat.le_antisymm (Nat.not_lt.mp habove) (Nat.not_lt.mp hbelow)
        linarith
      simp only [if_neg hbelow, if_neg habove]
      have hbit : ((num / den % 2 : Nat) : Rat) ≤ 1 := by
        exact_mod_cast Nat.lt_succ_iff.mp (Nat.mod_lt _ (by norm_num))
      push_cast
      refine ⟨by linarith [(num / den % 2 : Nat).cast_nonneg (α := Rat)], by linarith, ?_⟩
      omega

theorem roundRatio_mono {n d n' d' : Nat} (hd : 0 < d) (hd' : 0 < d')
    (h : (n : Rat) / d ≤ (n' : Rat) / d') : roundRatio n d ≤ roundRatio n' d' := by
  obtain ⟨-, hlower, heven⟩ := roundRatio_spec n hd
  obtain ⟨hupper, -, heven'⟩ := roundRatio_spec n' hd'
  by_contra hlt
  have hsucc : (roundRatio n' d' : Rat) + 1 ≤ roundRatio n d := by
    exact_mod_cast Nat.not_le.mp hlt
  -- both ratios are half way between the two results, and only one of these is even
  have hsame : (roundRatio n d : Rat) = roundRatio n' d' + 1 := by linarith
  have heq : roundRatio n d = roundRatio n' d' + 1 := by exact_mod_cast hsame
  have hzero := heven (Or.inr (by linarith))
  have hzero' := heven' (Or.inl (by linarith))
  omega

/-! ### Positive numbers -/

/-- The mantissa that a positive ratio is rounded to. -/
def mantissaFor (num den : Nat) : Nat :=
  roundRatio (scale num den (exponentFor num den)).1 (scale num den (exponentFor num den)).2

/-- A positive ratio rounded as if no number was too large. -/
def rounded (num den : Nat) : Rat :=
  (mantissaFor num den : Rat) * (2 : Rat) ^ exponentFor num den

theorem carry_eq (e : Int) : ((2 * leastFull : Nat) : Rat) * (2 : Rat) ^ e =
    (leastFull : Rat) * (2 : Rat) ^ (e + 1) := by
  rw [zpow_add₀ (by norm_num), Nat.cast_mul]
  ring

section Ratios

variable {num den num' den' : Nat}

theorem mantissaFor_le (hnum : 0 < num) (hden : 0 < den) :
    mantissaFor num den ≤ 2 * leastFull :=
  roundRatio_le (scale_exponentFor_lt hnum hden)

theorem leastFull_le_mantissaFor (hnum : 0 < num) (hden : 0 < den)
    (h : minExponent < exponentFor num den) : leastFull ≤ mantissaFor num den := by
  have hmagnitude : magnitude num den = 52 + exponentFor num den := by
    rw [exponentFor] at h ⊢
    omega
  have hfull : ((leastFull : Nat) : Rat) / (1 : Nat) ≤
      ((scale num den (exponentFor num den)).1 : Rat) /
        (scale num den (exponentFor num den)).2 := by
    rw [scale_eq, le_div_iff₀ (by positivity)]
    calc ((leastFull : Nat) : Rat) / (1 : Nat) * (2 : Rat) ^ exponentFor num den
        = (2 : Rat) ^ (52 + exponentFor num den) := by
          rw [zpow_add₀ (by norm_num)]
          norm_num [leastFull]
      _ ≤ (num : Rat) / den := hmagnitude ▸ (magnitude_spec hnum hden).1
  calc leastFull = roundRatio leastFull 1 := by decide
    _ ≤ mantissaFor num den := roundRatio_mono Nat.one_pos (scale_pos hden _) hfull

theorem exponentFor_mono (hnum : 0 < num) (hden : 0 < den) (hnum' : 0 < num') (hden' : 0 < den')
    (h : (num : Rat) / den ≤ (num' : Rat) / den') :
    exponentFor num den ≤ exponentFor num' den' := by
  have hlt : (2 : Rat) ^ magnitude num den < (2 : Rat) ^ (magnitude num' den' + 1) :=
    ((magnitude_spec hnum hden).1.trans h).trans_lt (magnitude_spec hnum' hden').2
  have hmagnitude := (zpow_lt_zpow_iff_right₀ (by norm_num)).mp hlt
  rw [exponentFor, exponentFor]
  omega

theorem rounded_mono (hnum : 0 < num) (hden : 0 < den) (hnum' : 0 < num') (hden' : 0 < den')
    (h : (num : Rat) / den ≤ (num' : Rat) / den') : rounded num den ≤ rounded num' den' := by
  have hexponent := exponentFor_mono hnum hden hnum' hden' h
  rcases hexponent.eq_or_lt with heq | hlt
  · have hmantissa : mantissaFor num den ≤ mantissaFor num' den' := by
      apply roundRatio_mono (scale_pos hden _) (scale_pos hden' _)
      rw [scale_eq, scale_eq, ← heq]
      gcongr
    rw [rounded, rounded, ← heq]
    gcongr
  · have hfull := leastFull_le_mantissaFor hnum' hden' (by
      have hmin : minExponent ≤ exponentFor num den := by
        rw [exponentFor]
        omega
      omega)
    calc rounded num den
        ≤ ((2 * leastFull : Nat) : Rat) * (2 : Rat) ^ exponentFor num den := by
          rw [rounded]
          gcongr
          exact mantissaFor_le hnum hden
      _ = (leastFull : Rat) * (2 : Rat) ^ (exponentFor num den + 1) := carry_eq _
      _ ≤ (leastFull : Rat) * (2 : Rat) ^ exponentFor num' den' := by
          gcongr
          · norm_num
          · omega
      _ ≤ rounded num' den' := by
          rw [rounded]
          gcongr

end Ratios

/-- The least power of two that is too large for a number. -/
def tooLarge : Rat := (leastFull : Rat) * (2 : Rat) ^ (maxExponent + 1)

theorem tooLarge_le_iff {m : Nat} {e : Int} (hlt : m < 2 * leastFull)
    (hfull : minExponent < e → leastFull ≤ m) :
    tooLarge ≤ (m : Rat) * (2 : Rat) ^ e ↔ maxExponent < e := by
  constructor
  · intro h
    by_contra hmax
    have hbelow : (m : Rat) * (2 : Rat) ^ e < tooLarge := by
      calc (m : Rat) * (2 : Rat) ^ e
          < ((2 * leastFull : Nat) : Rat) * (2 : Rat) ^ e := by gcongr
        _ = (leastFull : Rat) * (2 : Rat) ^ (e + 1) := carry_eq e
        _ ≤ tooLarge := by
            rw [tooLarge]
            gcongr
            · norm_num
            · omega
    exact absurd h (not_le.mpr hbelow)
  · intro hmax
    have hleast := hfull (lt_trans (by decide) hmax)
    rw [tooLarge]
    gcongr
    · norm_num
    · omega

theorem toRat?_ofParts {m : Nat} {e : Int} (hle : m ≤ 2 * leastFull)
    (hfull : minExponent < e → leastFull ≤ m) (negative : Bool) :
    (ofParts negative m e).toRat? =
      if tooLarge ≤ (m : Rat) * (2 : Rat) ^ e then none
      else some (if negative then -((m : Rat) * (2 : Rat) ^ e) else (m : Rat) * (2 : Rat) ^ e) := by
  rw [ofParts]
  by_cases hcarried : m = 2 * leastFull
  · -- the mantissa has a bit too many, which the exponent takes
    have htoo : tooLarge ≤ (leastFull : Rat) * (2 : Rat) ^ (e + 1) ↔ maxExponent < e + 1 :=
      tooLarge_le_iff (by decide) fun _ => le_rfl
    rw [hcarried, carry_eq]
    simp only [if_true, htoo]
    split <;> rfl
  · have htoo := tooLarge_le_iff (lt_of_le_of_ne hle hcarried) hfull
    simp only [hcarried, if_false, htoo]
    split <;> rfl

theorem toRat?_ofRatio {num den : Nat} (hnum : 0 < num) (hden : 0 < den) (negative : Bool) :
    (ofRatio negative num den).toRat? =
      if tooLarge ≤ rounded num den then none
      else some (if negative then -rounded num den else rounded num den) := by
  rw [ofRatio_eq hnum]
  exact toRat?_ofParts (mantissaFor_le hnum hden) (leastFull_le_mantissaFor hnum hden) negative

/-! ### All numbers -/

theorem natAbs_num_pos {q : Rat} (h : q ≠ 0) : 0 < q.num.natAbs :=
  Int.natAbs_pos.mpr (Rat.num_ne_zero.mpr h)

theorem nearest_of_pos {q : Rat} (hq : 0 < q) :
    nearest q = if tooLarge ≤ rounded q.num.natAbs q.den then q
      else rounded q.num.natAbs q.den := by
  have hneg : decide (q < 0) = false := decide_eq_false hq.le.not_gt
  rw [nearest, hneg, toRat?_ofRatio (natAbs_num_pos hq.ne') q.den_pos]
  split <;> rfl

theorem nearest_neg (q : Rat) : nearest (-q) = -nearest q := by
  have hpos : ∀ p : Rat, 0 < p → nearest (-p) = -nearest p := by
    intro p hp
    have hneg : decide (-p < 0) = true := decide_eq_true (neg_lt_zero.mpr hp)
    rw [nearest_of_pos hp, nearest, hneg, Rat.neg_num, Rat.neg_den, Int.natAbs_neg,
      toRat?_ofRatio (natAbs_num_pos hp.ne') p.den_pos]
    split <;> rfl
  rcases lt_trichotomy q 0 with hq | rfl | hq
  · have hflip := hpos (-q) (neg_pos.mpr hq)
    rw [neg_neg] at hflip
    rw [hflip, neg_neg]
  · rw [neg_zero, nearest_zero, neg_zero]
  · exact hpos q hq

theorem nearest_nonneg {q : Rat} (hq : 0 ≤ q) : 0 ≤ nearest q := by
  rcases hq.eq_or_lt with rfl | hpos
  · rw [nearest_zero]
  · rw [nearest_of_pos hpos]
    split
    · exact hq
    · rw [rounded]
      positivity

theorem nearest_mono_of_pos {p q : Rat} (hp : 0 < p) (h : p ≤ q) : nearest p ≤ nearest q := by
  have hq : 0 < q := hp.trans_le h
  have hmono : ∀ {x y : Rat}, 0 < x → x ≤ y →
      rounded x.num.natAbs x.den ≤ rounded y.num.natAbs y.den := by
    intro x y hx hxy
    have hy := hx.trans_le hxy
    apply rounded_mono (natAbs_num_pos hx.ne') x.den_pos (natAbs_num_pos hy.ne') y.den_pos
    rwa [← abs_eq_ratio, ← abs_eq_ratio, abs_of_pos hx, abs_of_pos hy]
  have hpq := hmono hp h
  by_cases hlarge : tooLarge ≤ rounded q.num.natAbs q.den
  · -- the larger number is too large, and stays; the smaller is rounded to less, if at all
    rw [nearest_of_pos hq, if_pos hlarge]
    rcases nearest_eq_or_representable p with hsame | hrep
    · rwa [hsame]
    · by_contra hlt
      have hv : 0 < nearest p := hq.trans (not_le.mp hlt)
      have hfar := hlarge.trans (hmono hq (not_le.mp hlt).le)
      rw [abs_eq_ratio] at hrep
      obtain ⟨m, e, hround, -⟩ :=
        ofRatio_of_representable (natAbs_num_pos hv.ne') (nearest p).den_pos hrep false
      have hnone := toRat?_ofRatio (natAbs_num_pos hv.ne') (nearest p).den_pos false
      rw [hround, if_pos hfar] at hnone
      cases hnone
  · have hsmall : ¬ tooLarge ≤ rounded p.num.natAbs p.den :=
      fun hle => hlarge (hle.trans hpq)
    rw [nearest_of_pos hp, nearest_of_pos hq, if_neg hlarge, if_neg hsmall]
    exact hpq

/-- **A larger number is not rounded to a smaller one.** -/
theorem nearest_mono {p q : Rat} (h : p ≤ q) : nearest p ≤ nearest q := by
  rcases lt_or_ge 0 p with hp | hp
  · exact nearest_mono_of_pos hp h
  · rcases le_or_gt 0 q with hq | hq
    · have hneg := nearest_nonneg (neg_nonneg.mpr hp)
      rw [nearest_neg] at hneg
      exact (neg_nonneg.mp hneg).trans (nearest_nonneg hq)
    · have hflip := nearest_mono_of_pos (neg_pos.mpr hq) (neg_le_neg h)
      rw [nearest_neg, nearest_neg] at hflip
      exact neg_le_neg_iff.mp hflip

end TeamPresence.Binary64
