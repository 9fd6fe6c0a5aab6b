import Mathlib.Algebra.Order.Field.Power
import Mathlib.Data.Int.Log
import Mathlib.Data.Rat.Floor
import Mathlib.Tactic.FieldSimp
import Mathlib.Tactic.Linarith
import Mathlib.Tactic.Positivity
import EditorBlocks.Number.Binary64
/-! Rounding a fraction to a double: the double depends on the value of the fraction alone, and a
fraction that is near enough to a double becomes that double. -/

namespace EditorBlocks.Binary64

/-- Whether a double is finite and in its one form: a significand of 53 bits, or the least
exponent. -/
def isProper : Binary64 → Bool
  | finite _ significand exponent =>
    significand < 2 ^ 53 && (2 ^ 52 ≤ significand || exponent == minExponent) &&
      minExponent ≤ exponent && exponent ≤ maxExponent
  | _ => false

theorem zpow_of_neg {b : ℚ} {e : Int} (h : e < 0) : b ^ e = (b ^ e.natAbs)⁻¹ := by
  obtain ⟨n, rfl | rfl⟩ := e.eq_nat_or_neg
  · omega
  · simp

theorem zpow_of_nonneg {b : ℚ} {e : Int} (h : ¬ e < 0) : b ^ e = b ^ e.natAbs := by
  obtain ⟨n, rfl⟩ := Int.eq_ofNat_of_zero_le (not_lt.mp h)
  simp

section Scaled
variable {num den : Nat} {e : Int}

/-- A fraction divided by a power of a base. -/
def shifted (base num den : Nat) (e : Int) : Nat × Nat :=
  if e < 0 then (num * base ^ e.natAbs, den) else (num, den * base ^ e.natAbs)

theorem shifted_pos {base : Nat} (hb : 0 < base) (hd : 0 < den) :
    0 < (shifted base num den e).2 := by
  unfold shifted
  split
  · exact hd
  · exact Nat.mul_pos hd (Nat.pow_pos hb)

theorem shifted_ratio (base num den : Nat) (e : Int) :
    ((shifted base num den e).1 : ℚ) / (shifted base num den e).2 = num / den / base ^ e := by
  unfold shifted
  split <;> rename_i he
  · rw [zpow_of_neg he]
    simp [mul_div_right_comm]
  · rw [zpow_of_nonneg he]
    simp [div_div]

theorem scaled_pos (hd : 0 < den) : 0 < (scaled num den e).2 := shifted_pos (by decide) hd

theorem scaled_ratio :
    ((scaled num den e).1 : ℚ) / (scaled num den e).2 = num / den / 2 ^ e :=
  shifted_ratio 2 num den e

/-- The exponent is that of the first bit of the value, 52 places down, but not below the least
one. -/
theorem exponentOf_eq (hn : 0 < num) (hd : 0 < den) :
    exponentOf num den = max minExponent (Int.log 2 (num / den : ℚ) - 52) := by
  have hnum : (0 : ℚ) < num := mod_cast hn
  have hden : (0 : ℚ) < den := mod_cast hd
  have hvalue : (0 : ℚ) < num / den := div_pos hnum hden
  generalize hfirst : Int.log 2 (num / den : ℚ) = first
  have hbelow : ∀ k : Int, (num / den : ℚ) < 2 ^ k ↔ first < k := fun k => by
    rw [← hfirst]
    exact Int.lt_zpow_iff_log_lt (by decide) hvalue
  have hupper : first < (num.log2 : Int) - den.log2 + 1 := by
    rw [← hbelow, div_lt_iff₀ hden, show (num.log2 : Int) - den.log2 + 1 =
      ((num.log2 + 1 : Nat) : Int) - den.log2 by omega, zpow_sub₀ two_ne_zero, zpow_natCast,
      zpow_natCast, div_mul_eq_mul_div, lt_div_iff₀ (by positivity)]
    have hlt : (num : ℚ) < 2 ^ (num.log2 + 1) := mod_cast Nat.lt_log2_self
    have hle : (2 : ℚ) ^ den.log2 ≤ den := mod_cast Nat.log2_self_le hd.ne'
    exact mul_lt_mul hlt hle (by positivity) (by positivity)
  have hlower : (num.log2 : Int) - den.log2 - 1 ≤ first := by
    rw [← not_lt, ← hbelow, not_lt, le_div_iff₀ hden, show (num.log2 : Int) - den.log2 - 1 =
      num.log2 - ((den.log2 + 1 : Nat) : Int) by omega, zpow_sub₀ two_ne_zero, zpow_natCast,
      zpow_natCast, div_mul_eq_mul_div, div_le_iff₀ (by positivity)]
    have hlt : (den : ℚ) ≤ 2 ^ (den.log2 + 1) := mod_cast Nat.lt_log2_self.le
    have hle : (2 : ℚ) ^ num.log2 ≤ num := mod_cast Nat.log2_self_le hn.ne'
    exact mul_le_mul hle hlt (by positivity) (by positivity)
  unfold exponentOf
  generalize hguess : (num.log2 : Int) - den.log2 - 52 = guess
  have htest : (scaled num den guess).1 < (scaled num den guess).2 * Nat.pow 2 52 ↔
      first < guess + 52 := by
    have hpos : (0 : ℚ) < (scaled num den guess).2 := mod_cast scaled_pos hd
    rw [← hbelow, zpow_add₀ two_ne_zero, ← div_lt_iff₀' (by positivity), ← scaled_ratio,
      div_lt_iff₀' hpos]
    norm_cast
  simp only [htest]
  split <;> omega

end Scaled

section Rounding
variable {num den : Nat}

theorem roundDiv_near (hd : 0 < den) {r : Nat} (h : |(num : ℚ) / den - r| < 1 / 2) :
    roundDiv num den = r := by
  have hden : (0 : ℚ) < den := mod_cast hd
  obtain ⟨hlow, hhigh⟩ := abs_lt.mp h
  have hlow : 2 * r * den < 2 * num + den := by
    have : (r : ℚ) - 1 / 2 < num / den := by linarith
    rw [lt_div_iff₀ hden] at this
    have : (2 * r * den : ℚ) < 2 * num + den := by linarith
    exact mod_cast this
  have hhigh : 2 * num < 2 * r * den + den := by
    have : (num : ℚ) / den < r + 1 / 2 := by linarith
    rw [div_lt_iff₀ hden] at this
    have : (2 * num : ℚ) < 2 * r * den + den := by linarith
    exact mod_cast this
  have hdiv := Nat.div_add_mod num den
  have hmod := Nat.mod_lt num hd
  unfold roundDiv
  generalize num / den = q at hdiv
  generalize num % den = m at hdiv hmod
  subst hdiv
  have hlow : 2 * (r * den) < 2 * (q * den) + 2 * m + den := by linarith
  have hhigh : 2 * (q * den) + 2 * m < 2 * (r * den) + den := by linarith
  -- the quotient is r or one less
  have hle : q ≤ r := by
    by_contra hlt
    have : (r + 1) * den ≤ q * den := Nat.mul_le_mul_right den (by omega)
    linarith
  have hge : r ≤ q + 1 := by
    by_contra hlt
    have : (q + 2) * den ≤ r * den := Nat.mul_le_mul_right den (by omega)
    linarith
  obtain rfl | rfl : r = q ∨ r = q + 1 := by omega
  · rw [if_pos (by simp; omega)]
  · have hlow : 2 * (q * den) + 2 * den < 2 * (q * den) + 2 * m + den := by linarith
    rw [if_neg (by simp; omega)]

theorem roundDiv_scale {factor : Nat} (h : 0 < factor) :
    roundDiv (num * factor) (den * factor) = roundDiv num den := by
  have hlt : 2 * (num % den * factor) < den * factor ↔ 2 * (num % den) < den := by
    rw [← Nat.mul_assoc, Nat.mul_lt_mul_right h]
  have heq : 2 * (num % den * factor) = den * factor ↔ 2 * (num % den) = den := by
    rw [← Nat.mul_assoc, Nat.mul_left_inj h.ne']
  unfold roundDiv
  simp only [Nat.mul_div_mul_right _ _ h, Nat.mul_mod_mul_right, Bool.or_eq_true, Bool.and_eq_true,
    decide_eq_true_eq, beq_iff_eq, hlt, heq]

theorem roundDiv_congr {num' den' : Nat} (hd : 0 < den) (hd' : 0 < den')
    (h : (num : ℚ) / den = num' / den') : roundDiv num den = roundDiv num' den' := by
  have hcross : num * den' = num' * den := by
    rw [div_eq_div_iff (mod_cast hd.ne') (mod_cast hd'.ne')] at h
    exact mod_cast h
  rw [← roundDiv_scale hd', hcross, Nat.mul_comm den, roundDiv_scale hd]

/-- The double of a rounded significand. A bit too many moves the exponent. -/
def carried (negative : Bool) (rounded : Nat) (exponent : Int) : Binary64 :=
  let (significand, exponent) :=
    if rounded == Nat.pow 2 53 then (Nat.pow 2 52, exponent + 1) else (rounded, exponent)
  if maxExponent < exponent then infinity negative else finite negative significand exponent

theorem ofRatio_zero (negative : Bool) (den : Nat) : ofRatio negative 0 den = zero negative := by
  rw [ofRatio]
  exact if_pos rfl

theorem ofRatio_eq {negative : Bool} (hn : 0 < num) : ofRatio negative num den =
    carried negative (roundDiv (scaled num den (exponentOf num den)).1
      (scaled num den (exponentOf num den)).2) (exponentOf num den) := by
  have hne : ¬(num == 0) = true := by
    rw [beq_iff_eq]
    exact hn.ne'
  rewrite [ofRatio, if_neg hne]
  -- variables for the parts, so that nothing computes them
  generalize exponentOf num den = e
  extract_lets exponent
  generalize scaled num den exponent = fraction
  obtain ⟨n, d⟩ := fraction
  dsimp only
  generalize roundDiv n d = r
  rfl

theorem carried_of_lt {negative : Bool} {r : Nat} {e : Int} (hr : r < 2 ^ 53)
    (he : e ≤ maxExponent) : carried negative r e = finite negative r e := by
  have hne : ¬(r == Nat.pow 2 53) = true := by
    rw [beq_iff_eq]
    exact hr.ne
  rw [carried, if_neg hne]
  exact if_neg (not_lt.mpr he)

theorem carried_of_eq {negative : Bool} {e : Int} (he : e < maxExponent) :
    carried negative (2 ^ 53) e = finite negative (2 ^ 52) (e + 1) := by
  have heq : (2 ^ 53 == Nat.pow 2 53) = true := beq_iff_eq.mpr rfl
  rw [carried, if_pos heq]
  exact if_neg (not_lt.mpr (Int.add_one_le_of_lt he))

/-- The double depends on the value of the fraction alone. -/
theorem ofRatio_congr {num' den' : Nat} (negative : Bool) (hd : 0 < den) (hd' : 0 < den')
    (h : (num : ℚ) / den = num' / den') : ofRatio negative num den = ofRatio negative num' den' := by
  have hzero : num = 0 ↔ num' = 0 := by
    have hden : (den : ℚ) ≠ 0 := mod_cast hd.ne'
    have hden' : (den' : ℚ) ≠ 0 := mod_cast hd'.ne'
    rw [← Nat.cast_eq_zero (R := ℚ), ← Nat.cast_eq_zero (R := ℚ) (n := num'),
      ← div_left_inj' hden, zero_div, h, div_eq_zero_iff]
    simp [hden']
  obtain rfl | hn := Nat.eq_zero_or_pos num
  · rw [hzero.mp rfl, ofRatio_zero, ofRatio_zero]
  · have hn' : 0 < num' := Nat.pos_of_ne_zero (mt hzero.mpr hn.ne')
    have hexponent : exponentOf num den = exponentOf num' den' := by
      rw [exponentOf_eq hn hd, exponentOf_eq hn' hd', h]
    have hrounded := roundDiv_congr (scaled_pos (e := exponentOf num' den') hd)
      (scaled_pos (e := exponentOf num' den') hd') (by rw [scaled_ratio, scaled_ratio, h])
    rw [ofRatio_eq hn, ofRatio_eq hn', hexponent, hrounded]

theorem ofRatio_of_round {negative : Bool} {e : Int} {r : Nat} (hn : 0 < num) (hd : 0 < den)
    (he : exponentOf num den = e) (hr : |(num / den / 2 ^ e : ℚ) - r| < 1 / 2) :
    ofRatio negative num den = carried negative r e := by
  rw [← scaled_ratio] at hr
  rw [ofRatio_eq hn, he, roundDiv_near (scaled_pos hd) hr]

/-! ### In units of the last place -/

variable {negative : Bool} {s : Nat} {e : Int} {x : ℚ}

theorem num_pos (hd : 0 < den) (hvalue : (num / den : ℚ) = x * 2 ^ e) (hx : 0 < x) : 0 < num := by
  have hden : (0 : ℚ) < den := mod_cast hd
  have hratio : (0 : ℚ) < num / den := by
    rw [hvalue]
    positivity
  rw [div_pos_iff_of_pos_right hden] at hratio
  exact mod_cast hratio

theorem log_lt_iff (hvalue : (num / den : ℚ) = x * 2 ^ e) (hx : 0 < x) (k : Int) :
    Int.log 2 (num / den : ℚ) < e + k ↔ x < 2 ^ k := by
  have hscale : (0 : ℚ) < 2 ^ e := by positivity
  have hratio : (0 : ℚ) < num / den := hvalue ▸ mul_pos hx hscale
  rw [← Int.lt_zpow_iff_log_lt (by decide) hratio, hvalue, add_comm e, Nat.cast_ofNat,
    zpow_add₀ two_ne_zero, mul_lt_mul_iff_left₀ hscale]

/-- A value with 53 bits before the point, or with fewer if the exponent is the least one, is rounded
to the nearest significand. -/
theorem ofRatio_of_near (hd : 0 < den) (hvalue : (num / den : ℚ) = x * 2 ^ e) (hx : 0 < x)
    (hbits : x < 2 ^ 53) (hfirst : e = minExponent ∨ 2 ^ 52 ≤ x) (hmin : minExponent ≤ e)
    (hmax : e ≤ maxExponent) (hs : s < 2 ^ 53) (hnear : |x - s| < 1 / 2) :
    ofRatio negative num den = finite negative s e := by
  have hscale : (2 : ℚ) ^ e ≠ 0 := by positivity
  have hn := num_pos hd hvalue hx
  have htop : Int.log 2 (num / den : ℚ) < e + 53 := (log_lt_iff hvalue hx 53).mpr hbits
  have he : exponentOf num den = e := by
    rw [exponentOf_eq hn hd]
    rcases hfirst with hfirst | hfirst
    · omega
    · have hbit : ¬ Int.log 2 (num / den : ℚ) < e + 52 :=
        (log_lt_iff hvalue hx 52).not.mpr (not_lt.mpr hfirst)
      omega
  rw [ofRatio_of_round hn hd he (by rwa [hvalue, mul_div_cancel_right₀ _ hscale]),
    carried_of_lt hs hmax]

/-- Below a power of two the doubles are twice as close. -/
theorem ofRatio_of_near_power (hd : 0 < den) (hvalue : (num / den : ℚ) = x * 2 ^ e)
    (hlow : 2 ^ 52 - 1 / 4 < x) (hhigh : x < 2 ^ 52) (hmin : minExponent < e)
    (hmax : e ≤ maxExponent) : ofRatio negative num den = finite negative (2 ^ 52) e := by
  norm_num at hlow hhigh
  have hx : 0 < x := by linarith
  have hscale : (2 : ℚ) ^ e ≠ 0 := by positivity
  have hn := num_pos hd hvalue hx
  have he : exponentOf num den = e - 1 := by
    have htop : Int.log 2 (num / den : ℚ) < e + 52 := by
      rw [log_lt_iff hvalue hx]
      norm_num
      exact hhigh
    have hbit : ¬ Int.log 2 (num / den : ℚ) < e + 51 := by
      rw [log_lt_iff hvalue hx]
      norm_num
      linarith
    rw [exponentOf_eq hn hd]
    omega
  have hhalf : |(num / den / 2 ^ (e - 1) : ℚ) - (2 ^ 53 : Nat)| < 1 / 2 := by
    have hunit : (num / den / 2 ^ (e - 1) : ℚ) = 2 * x := by
      rw [zpow_sub_one₀ two_ne_zero, ← div_div, hvalue, mul_div_cancel_right₀ _ hscale]
      ring
    rw [hunit, abs_lt]
    norm_num
    constructor <;> linarith
  rw [ofRatio_of_round hn hd he hhalf, carried_of_eq (by omega), sub_add_cancel]

/-- A fraction is rounded to a double that it differs from by less than the 54th bit. -/
theorem ofRatio_near (hp : (finite negative s e).isProper) (hs : 0 < s) (hd : 0 < den)
    (h : |(num / den : ℚ) - s * 2 ^ e| < s * 2 ^ e / 2 ^ 54) :
    ofRatio negative num den = finite negative s e := by
  simp only [isProper, Bool.and_eq_true, Bool.or_eq_true, decide_eq_true_eq, beq_iff_eq] at hp
  obtain ⟨⟨⟨hsmall, hform⟩, hmin⟩, hmax⟩ := hp
  have hscale : (0 : ℚ) < 2 ^ e := by positivity
  obtain ⟨x, hvalue⟩ : ∃ x : ℚ, (num / den : ℚ) = x * 2 ^ e :=
    ⟨_, (div_mul_cancel₀ _ hscale.ne').symm⟩
  have hnear : |x - s| < s / 2 ^ 54 := by
    rw [hvalue, ← sub_mul, abs_mul, abs_of_pos hscale, mul_div_right_comm,
      mul_lt_mul_iff_left₀ hscale] at h
    exact h
  obtain ⟨hlow, hhigh⟩ := abs_lt.mp hnear
  have hspos : (1 : ℚ) ≤ s := mod_cast hs
  have htop : (s : ℚ) + 1 ≤ 2 ^ 53 := mod_cast hsmall
  norm_num at htop hlow hhigh
  have hx : 0 < x := by linarith
  by_cases hfirst : e = minExponent ∨ (2 : ℚ) ^ 52 ≤ x
  · refine ofRatio_of_near hd hvalue hx ?_ hfirst hmin hmax hsmall ?_
    · norm_num
      linarith
    · rw [abs_lt]
      constructor <;> linarith
  · obtain ⟨hne, hlt⟩ := not_or.mp hfirst
    have hlt := not_le.mp hlt
    have hs52 : s = 2 ^ 52 := by
      by_contra hother
      have hmore : 4503599627370497 ≤ s := by
        have := hform.resolve_right hne
        omega
      have hmore : (4503599627370497 : ℚ) ≤ s := mod_cast hmore
      norm_num at hlt
      linarith
    rw [hs52]
    refine ofRatio_of_near_power hd hvalue ?_ hlt (by omega) hmax
    rw [hs52] at hlow
    norm_num at hlow ⊢
    linarith

end Rounding
end EditorBlocks.Binary64
