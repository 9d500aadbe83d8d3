import Mathlib.Algebra.Order.Field.Power
import Mathlib.Data.Nat.Log
import Mathlib.Data.Rat.Cast.Order
import Mathlib.Tactic.FieldSimp
import Mathlib.Tactic.Positivity
import Mathlib.Tactic.Ring
import TeamPresence.Number.Binary64

/-!
# Rounding twice

What was rounded is not rounded again: `nearest_nearest`. A number that is *representable*, a
mantissa of at most 53 bits times a power of two in range, is its own nearest number, and each
number that is not too large is rounded to a representable one.
-/

namespace TeamPresence.Binary64

theorem scale_eq (num den : Nat) (e : Int) :
    ((scale num den e).1 : Rat) / (scale num den e).2 = (num : Rat) / den / (2 : Rat) ^ e := by
  rw [scale]
  split
  · next he =>
    obtain ⟨k, hk⟩ : ∃ k : Nat, e = -k := ⟨(-e).toNat, by omega⟩
    subst hk
    simp only [neg_neg, Int.toNat_natCast, Nat.shiftLeft_eq, Nat.cast_mul, Nat.cast_pow,
      Nat.cast_ofNat, zpow_neg, zpow_natCast]
    field_simp
  · next he =>
    obtain ⟨k, hk⟩ : ∃ k : Nat, e = k := ⟨e.toNat, by omega⟩
    subst hk
    simp only [Int.toNat_natCast, Nat.shiftLeft_eq, Nat.cast_mul, Nat.cast_pow, Nat.cast_ofNat,
      zpow_natCast]
    field_simp

theorem scale_pos {num den : Nat} (hden : 0 < den) (e : Int) : 0 < (scale num den e).2 := by
  rw [scale]
  split
  · exact hden
  · rw [Nat.shiftLeft_eq]
    positivity

theorem scale_lt_iff {num den : Nat} (hden : 0 < den) (e : Int) :
    (scale num den e).1 < (scale num den e).2 ↔ (num : Rat) / den < (2 : Rat) ^ e := by
  have hpos : (0 : Rat) < (scale num den e).2 := by exact_mod_cast scale_pos hden e
  rw [← div_lt_one (a := (num : Rat) / den) (by positivity), ← scale_eq, div_lt_one hpos,
    Nat.cast_lt]

theorem cast_log2 {n : Nat} (hn : 0 < n) :
    (2 : Rat) ^ (n.log2 : Int) ≤ n ∧ (n : Rat) < (2 : Rat) ^ ((n.log2 : Int) + 1) := by
  obtain ⟨hle, hlt⟩ := (Nat.log2_eq_iff hn.ne').mp rfl
  refine ⟨?_, ?_⟩
  · rw [zpow_natCast]
    exact_mod_cast hle
  · rw [← Nat.cast_succ, zpow_natCast]
    exact_mod_cast hlt

theorem magnitude_spec {num den : Nat} (hnum : 0 < num) (hden : 0 < den) :
    (2 : Rat) ^ magnitude num den ≤ (num : Rat) / den ∧
      (num : Rat) / den < (2 : Rat) ^ (magnitude num den + 1) := by
  obtain ⟨hnumLe, hnumLt⟩ := cast_log2 hnum
  obtain ⟨hdenLe, hdenLt⟩ := cast_log2 hden
  have hpos : (0 : Rat) < den := by exact_mod_cast hden
  have hlower : (2 : Rat) ^ ((num.log2 : Int) - den.log2 - 1) ≤ (num : Rat) / den := by
    rw [le_div_iff₀ hpos]
    calc (2 : Rat) ^ ((num.log2 : Int) - den.log2 - 1) * den
        ≤ (2 : Rat) ^ ((num.log2 : Int) - den.log2 - 1) * (2 : Rat) ^ ((den.log2 : Int) + 1) := by
          gcongr
      _ = (2 : Rat) ^ (num.log2 : Int) := by
          rw [← zpow_add₀ (by norm_num)]
          congr 1
          ring
      _ ≤ num := hnumLe
  have hupper : (num : Rat) / den < (2 : Rat) ^ ((num.log2 : Int) - den.log2 + 1) := by
    rw [div_lt_iff₀ hpos]
    calc (num : Rat) < (2 : Rat) ^ ((num.log2 : Int) + 1) := hnumLt
      _ = (2 : Rat) ^ ((num.log2 : Int) - den.log2 + 1) * (2 : Rat) ^ (den.log2 : Int) := by
          rw [← zpow_add₀ (by norm_num)]
          congr 1
          ring
      _ ≤ (2 : Rat) ^ ((num.log2 : Int) - den.log2 + 1) * den := by gcongr
  rw [magnitude]
  simp only [scale_lt_iff hden]
  split
  · next hlt => exact ⟨hlower, by rwa [sub_add_cancel]⟩
  · next hge => exact ⟨not_lt.mp hge, hupper⟩

/-! ### Rounding to a whole number -/

theorem roundRatio_of_dvd {num den : Nat} (hden : 0 < den) (h : den ∣ num) :
    roundRatio num den = num / den := by
  rw [roundRatio, Nat.mod_eq_zero_of_dvd h]
  simp only [Nat.mul_zero, hden, if_true]

theorem roundRatio_le {num den bound : Nat} (h : num < bound * den) :
    roundRatio num den ≤ bound := by
  have hquot : num / den < bound := Nat.div_lt_of_lt_mul (by rwa [Nat.mul_comm])
  rw [roundRatio]
  split
  · omega
  · split <;> omega

/-! ### Representable numbers -/

/-- A mantissa of 53 bits times a power of two in range. -/
def Representable (q : Rat) : Prop :=
  ∃ (m : Nat) (e : Int), m < 2 * leastFull ∧ minExponent ≤ e ∧ e ≤ maxExponent ∧
    q = (m : Rat) * (2 : Rat) ^ e

def exponentFor (num den : Nat) : Int := max (magnitude num den - 52) minExponent

theorem ofRatio_eq {num den : Nat} (hnum : 0 < num) (negative : Bool) :
    ofRatio negative num den =
      ofParts negative
        (roundRatio (scale num den (exponentFor num den)).1
          (scale num den (exponentFor num den)).2) (exponentFor num den) := by
  have hmax : (if magnitude num den - 52 < minExponent then minExponent
      else magnitude num den - 52) = exponentFor num den := by
    rw [exponentFor]
    split <;> omega
  rw [ofRatio, if_neg hnum.ne']
  simp only [hmax]

/-- At that exponent the ratio has at most 53 bits. -/
theorem scale_exponentFor_lt {num den : Nat} (hnum : 0 < num) (hden : 0 < den) :
    (scale num den (exponentFor num den)).1 <
      2 * leastFull * (scale num den (exponentFor num den)).2 := by
  have hpos : (0 : Rat) < (scale num den (exponentFor num den)).2 := by
    exact_mod_cast scale_pos hden _
  have hlt : (num : Rat) / den < 2 * leastFull * (2 : Rat) ^ exponentFor num den := by
    calc (num : Rat) / den < (2 : Rat) ^ (magnitude num den + 1) := (magnitude_spec hnum hden).2
      _ ≤ (2 : Rat) ^ ((53 : Int) + exponentFor num den) :=
          zpow_le_zpow_right₀ (by norm_num) (by rw [exponentFor]; omega)
      _ = 2 * leastFull * (2 : Rat) ^ exponentFor num den := by
          rw [zpow_add₀ (by norm_num)]
          norm_num [leastFull]
  rw [← div_lt_iff₀ (by positivity), ← scale_eq, div_lt_iff₀ hpos] at hlt
  exact_mod_cast hlt

theorem ofRatio_of_representable {num den : Nat} (hnum : 0 < num) (hden : 0 < den)
    (h : Representable ((num : Rat) / den)) (negative : Bool) :
    ∃ (m : Nat) (e : Int), ofRatio negative num den = .finite negative m e ∧
      (m : Rat) * (2 : Rat) ^ e = (num : Rat) / den := by
  obtain ⟨m, e, hm, hmin, hmax, hq⟩ := h
  have hmagnitude : magnitude num den < 53 + e := by
    rw [← zpow_lt_zpow_iff_right₀ (a := (2 : Rat)) (by norm_num)]
    calc (2 : Rat) ^ magnitude num den ≤ (num : Rat) / den := (magnitude_spec hnum hden).1
      _ = (m : Rat) * (2 : Rat) ^ e := hq
      _ < (2 * leastFull : Nat) * (2 : Rat) ^ e := by
          gcongr
      _ = (2 : Rat) ^ (53 + e) := by
          rw [zpow_add₀ (by norm_num)]
          norm_num [leastFull]
  have hle : exponentFor num den ≤ e := by
    rw [exponentFor]
    omega
  obtain ⟨k, hk⟩ : ∃ k : Nat, e = exponentFor num den + k := ⟨(e - exponentFor num den).toNat,
    by omega⟩
  -- at its exponent the ratio is whole
  have hwhole : (scale num den (exponentFor num den)).1 =
      m * 2 ^ k * (scale num den (exponentFor num den)).2 := by
    have hpos : (0 : Rat) < (scale num den (exponentFor num den)).2 := by
      exact_mod_cast scale_pos hden _
    have hscaled := scale_eq num den (exponentFor num den)
    rw [hq, hk, zpow_add₀ (by norm_num), zpow_natCast, mul_comm ((2 : Rat) ^ exponentFor num den),
      ← mul_assoc, mul_div_cancel_right₀ _ (by positivity), div_eq_iff hpos.ne'] at hscaled
    exact_mod_cast hscaled
  have hlt : m * 2 ^ k < 2 * leastFull := by
    have hlt := scale_exponentFor_lt hnum hden
    rw [hwhole] at hlt
    exact Nat.lt_of_mul_lt_mul_right hlt
  refine ⟨m * 2 ^ k, exponentFor num den, ?_, ?_⟩
  · rw [ofRatio_eq hnum, roundRatio_of_dvd (scale_pos hden _) (Dvd.intro_left _ hwhole.symm),
      hwhole, Nat.mul_div_cancel _ (scale_pos hden _), ofParts]
    simp only [hlt.ne, if_false]
    rw [if_neg (by omega)]
  · rw [hq, hk, zpow_add₀ (by norm_num), zpow_natCast]
    push_cast
    ring

theorem representable_of_ofRatio {num den : Nat} (hnum : 0 < num) (hden : 0 < den)
    {negative sign : Bool} {m : Nat} {e : Int}
    (h : ofRatio negative num den = .finite sign m e) :
    sign = negative ∧ Representable ((m : Rat) * (2 : Rat) ^ e) := by
  have hround := roundRatio_le (scale_exponentFor_lt hnum hden)
  have hmin : minExponent ≤ exponentFor num den := by
    rw [exponentFor]
    omega
  rw [ofRatio_eq hnum, ofParts] at h
  by_cases hcarried : roundRatio (scale num den (exponentFor num den)).1
      (scale num den (exponentFor num den)).2 = 2 * leastFull
  · simp only [hcarried, if_true] at h
    split at h
    · cases h
    · cases h
      exact ⟨rfl, leastFull, exponentFor num den + 1, by decide, by omega, by omega, rfl⟩
  · simp only [hcarried, if_false] at h
    split at h
    · cases h
    · cases h
      exact ⟨rfl, _, _, by omega, hmin, by omega, rfl⟩

/-! ### The nearest number -/

theorem abs_eq_ratio (q : Rat) : |q| = (q.num.natAbs : Rat) / q.den := by
  rw [Rat.abs_def, Rat.divInt_eq_div, Int.cast_natCast, Int.cast_natCast]

theorem nearest_zero : nearest 0 = 0 := by simp [nearest, ofRatio, toRat?]

theorem nearest_of_representable {q : Rat} (h : Representable |q|) : nearest q = q := by
  by_cases hzero : q = 0
  · rw [hzero, nearest_zero]
  · have hnum : 0 < q.num.natAbs := Int.natAbs_pos.mpr (Rat.num_ne_zero.mpr hzero)
    rw [abs_eq_ratio] at h
    obtain ⟨m, e, hround, hvalue⟩ := ofRatio_of_representable hnum q.den_pos h (q < 0)
    rw [nearest, hround, toRat?, hvalue, ← abs_eq_ratio, Option.getD_some]
    by_cases hneg : q < 0
    · simp [hneg, abs_of_neg hneg]
    · simp [hneg, abs_of_nonneg (not_lt.mp hneg)]

theorem nearest_eq_or_representable (q : Rat) :
    nearest q = q ∨ Representable |nearest q| := by
  by_cases hzero : q = 0
  · rw [hzero, nearest_zero]
    exact Or.inl rfl
  · have hnum : 0 < q.num.natAbs := Int.natAbs_pos.mpr (Rat.num_ne_zero.mpr hzero)
    rw [nearest]
    cases hround : ofRatio (q < 0) q.num.natAbs q.den with
    | finite sign m e =>
      obtain ⟨-, hrep⟩ := representable_of_ofRatio hnum q.den_pos hround
      have habs : |(m : Rat) * (2 : Rat) ^ e| = (m : Rat) * (2 : Rat) ^ e :=
        abs_of_nonneg (by positivity)
      rw [toRat?, Option.getD_some]
      right
      cases sign
      · simpa only [Bool.false_eq_true, if_false, habs] using hrep
      · simpa only [if_true, abs_neg, habs] using hrep
    | infinite sign => exact Or.inl rfl
    | nan => exact Or.inl rfl

/-- **What was rounded is not rounded again.** -/
theorem nearest_nearest (q : Rat) : nearest (nearest q) = nearest q := by
  rcases nearest_eq_or_representable q with h | h
  · rw [h, h]
  · exact nearest_of_representable h

end TeamPresence.Binary64
