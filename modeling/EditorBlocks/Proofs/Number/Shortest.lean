import Mathlib.Algebra.Order.Floor.Semifield
import EditorBlocks.Proofs.Number.Rounding
/-! The shortest decimal of a double: it reads back as the double, since one of the decimals with 17
digits always does. -/

namespace EditorBlocks.Binary64

/-! ### Reading a decimal -/

theorem lt_pow_decimalLength (n : Nat) : n < 10 ^ decimalLength n :=
  (Nat.length_toDigits_le_iff (by decide) Nat.length_toDigits_pos).mp le_rfl

theorem pow_decimalLength_le {n : Nat} (hn : 0 < n) : 10 ^ (decimalLength n - 1) ≤ n := by
  by_cases h : 1 < decimalLength n
  · rw [← not_lt, ← Nat.length_toDigits_le_iff (by decide) (by omega)]
    exact fun (hle : decimalLength n ≤ decimalLength n - 1) => by omega
  · rw [Nat.sub_eq_zero_of_le (not_lt.mp h)]
    exact hn

section Reading
variable {negative : Bool} {digits num den : Nat} {power : Int}

/-- The values for which a decimal is rounded as a fraction. -/
def IsInRange (q : ℚ) : Prop := 10 ^ (-400 : Int) ≤ q ∧ q < 10 ^ (400 : Int)

theorem pos_of_isInRange (h : IsInRange (digits * 10 ^ power)) : 0 < digits := by
  have hpos : (0 : ℚ) < digits * 10 ^ power := lt_of_lt_of_le (by positivity) h.1
  have hunit : (0 : ℚ) < 10 ^ power := by positivity
  exact mod_cast (mul_pos_iff_of_pos_right hunit).mp hpos

/-- A decimal in range is the double nearest its value. -/
theorem ofDecimal_eq (hd : 0 < den) (h : IsInRange (digits * 10 ^ power))
    (hvalue : (num / den : ℚ) = digits * 10 ^ power) :
    ofDecimal negative digits power = ofRatio negative num den := by
  have hdigits := pos_of_isInRange h
  obtain ⟨hlow, hhigh⟩ := h
  have hone : (1 : ℚ) ≤ digits := mod_cast hdigits
  have hpower : ¬ 400 < power := by
    intro hlarge
    have : (10 : ℚ) ^ (400 : Int) ≤ 10 ^ power := zpow_le_zpow_right₀ (by norm_num) hlarge.le
    exact absurd (this.trans (le_mul_of_one_le_left (by positivity) hone)) (not_le.mpr hhigh)
  have hlength : ¬ power + decimalLength digits < -400 := by
    intro hsmall
    have hlt : (digits : ℚ) < 10 ^ (decimalLength digits : Int) := by
      rw [zpow_natCast]
      exact mod_cast lt_pow_decimalLength digits
    have : (digits * 10 ^ power : ℚ) < 10 ^ (decimalLength digits + power : Int) := by
      rw [zpow_add₀ (by norm_num)]
      exact mul_lt_mul_of_pos_right hlt (by positivity)
    have hle : (10 : ℚ) ^ (decimalLength digits + power : Int) ≤ 10 ^ (-400 : Int) :=
      zpow_le_zpow_right₀ (by norm_num) (by omega)
    exact absurd (this.trans_le hle) (not_lt.mpr hlow)
  rw [ofDecimal, if_neg (by simpa using hdigits.ne'), if_neg hpower, if_neg hlength]
  split <;> rename_i hsign
  · refine ofRatio_congr negative (Nat.pow_pos (by decide)) hd ?_
    rw [hvalue, zpow_of_neg hsign, div_eq_mul_inv]
    norm_cast
  · refine ofRatio_congr negative (by decide) hd ?_
    rw [hvalue, zpow_of_nonneg hsign]
    push_cast
    rw [div_one]
    norm_cast

theorem exists_ratio (digits : Nat) (power : Int) :
    ∃ num den : Nat, 0 < den ∧ (num / den : ℚ) = digits * 10 ^ power := by
  refine ⟨(shifted 10 digits 1 (-power)).1, (shifted 10 digits 1 (-power)).2,
    shifted_pos (by decide) Nat.one_pos, ?_⟩
  rw [shifted_ratio]
  simp

/-- Two decimals of one value are one double. -/
theorem ofDecimal_congr {digits' : Nat} {power' : Int} (h : IsInRange (digits * 10 ^ power))
    (hvalue : (digits * 10 ^ power : ℚ) = digits' * 10 ^ power') :
    ofDecimal negative digits power = ofDecimal negative digits' power' := by
  obtain ⟨num, den, hd, hratio⟩ := exists_ratio digits power
  rw [ofDecimal_eq hd h hratio, ofDecimal_eq hd (hvalue ▸ h) (hratio.trans hvalue)]

end Reading

/-! ### The shortest decimal -/

/-- The power of ten at which a value starts is that of its first digit and one more. -/
theorem decimalPoint_eq {num den : Nat} (hn : 0 < num) (hd : 0 < den) :
    decimalPoint num den = Int.log 10 (num / den : ℚ) + 1 := by
  have hden : (0 : ℚ) < den := mod_cast hd
  have hvalue : (0 : ℚ) < num / den := div_pos (mod_cast hn) hden
  generalize hfirst : Int.log 10 (num / den : ℚ) = first
  have hreached : ∀ k : Int, (10 : ℚ) ^ k ≤ num / den ↔ k ≤ first := fun k => by
    rw [← hfirst]
    exact Int.zpow_le_iff_le_log (by decide) hvalue
  have hnum := lt_pow_decimalLength num
  have hnum' := pow_decimalLength_le hn
  have hden₁ := lt_pow_decimalLength den
  have hden' := pow_decimalLength_le hd
  have hl : 0 < decimalLength num := Nat.length_toDigits_pos
  have hl' : 0 < decimalLength den := Nat.length_toDigits_pos
  unfold decimalPoint
  generalize decimalLength num = m at *
  generalize decimalLength den = n at *
  have hlower : (m : Int) - n - 1 ≤ first := by
    rw [← hreached, le_div_iff₀ hden, show (m : Int) - n - 1 = ((m - 1 : Nat) : Int) - n by omega,
      zpow_sub₀ (by norm_num), zpow_natCast, zpow_natCast, div_mul_eq_mul_div,
      div_le_iff₀ (by positivity)]
    exact mod_cast Nat.mul_le_mul hnum' hden₁.le
  have hupper : first < (m : Int) - n + 1 := by
    rw [← not_le, ← hreached, not_le, div_lt_iff₀ hden,
      show (m : Int) - n + 1 = m - ((n - 1 : Nat) : Int) by omega,
      zpow_sub₀ (by norm_num), zpow_natCast, zpow_natCast, div_mul_eq_mul_div,
      lt_div_iff₀ (by positivity)]
    exact mod_cast Nat.mul_lt_mul_of_lt_of_le hnum hden' (by positivity)
  have htest : (if (m : Int) - n < 0 then
      decide (den ≤ num * Nat.pow 10 ((m : Int) - n).natAbs)
      else decide (den * Nat.pow 10 ((m : Int) - n).natAbs ≤ num)) = true ↔
      (m : Int) - n ≤ first := by
    rw [← hreached]
    split <;> rename_i hsign
    · rw [zpow_of_neg hsign, decide_eq_true_eq, le_div_iff₀ hden, inv_mul_le_iff₀ (by positivity),
        mul_comm]
      norm_cast
    · rw [zpow_of_nonneg hsign, decide_eq_true_eq, le_div_iff₀ hden, mul_comm]
      norm_cast
  simp only [htest]
  split <;> omega

section Proper
variable {negative : Bool} {s : Nat} {e : Int}

theorem magnitude_range (hp : (finite negative s e).isProper) (hs : 0 < s) :
    (10 : ℚ) ^ (-324 : Int) ≤ s * 2 ^ e ∧ (s * 2 ^ e : ℚ) < 10 ^ (309 : Int) := by
  simp only [isProper, Bool.and_eq_true, decide_eq_true_eq] at hp
  obtain ⟨⟨⟨hsmall, -⟩, hmin⟩, hmax⟩ := hp
  have hone : (1 : ℚ) ≤ s := mod_cast hs
  have hlt : (s : ℚ) < 2 ^ (53 : Int) := mod_cast hsmall
  have hleast : 2 ^ 1074 ≤ 10 ^ 324 := by decide +kernel
  have hlargest : 2 ^ 1024 < 10 ^ 309 := by decide +kernel
  constructor
  · calc (10 : ℚ) ^ (-324 : Int) ≤ 2 ^ (-1074 : Int) := by
          rw [zpow_neg, zpow_neg]
          exact inv_anti₀ (by positivity) (mod_cast hleast)
      _ ≤ 2 ^ e := zpow_le_zpow_right₀ (by norm_num) hmin
      _ ≤ s * 2 ^ e := le_mul_of_one_le_left (by positivity) hone
  · calc (s * 2 ^ e : ℚ) < 2 ^ (53 : Int) * 2 ^ e := mul_lt_mul_of_pos_right hlt (by positivity)
      _ ≤ 2 ^ (53 : Int) * 2 ^ (971 : Int) := by
        refine mul_le_mul_of_nonneg_left (zpow_le_zpow_right₀ (by norm_num) hmax) (by positivity)
      _ = 2 ^ (1024 : Int) := by rw [← zpow_add₀ two_ne_zero]; rfl
      _ < 10 ^ (309 : Int) := mod_cast hlargest

/-- A decimal that is near enough to a double reads back as the double. -/
theorem ofDecimal_near (hp : (finite negative s e).isProper) (hs : 0 < s) {digits : Nat}
    {power : Int} (hrange : IsInRange (digits * 10 ^ power))
    (h : |(digits * 10 ^ power : ℚ) - s * 2 ^ e| < s * 2 ^ e / 2 ^ 54) :
    ofDecimal negative digits power = finite negative s e := by
  obtain ⟨num, den, hd, hratio⟩ := exists_ratio digits power
  rw [ofDecimal_eq hd hrange hratio]
  exact ofRatio_near hp hs hd (hratio ▸ h)

/-- A decimal that reads back as the magnitude of a double, and whose value is in range. -/
structure Found (s : Nat) (e : Int) (found : Nat × Int) : Prop where
  fits : ofDecimal false found.1 found.2 = finite false s e
  range : IsInRange (found.1 * 10 ^ found.2)

theorem nearer_eq_some {num den below above digits : Nat} {belowFits aboveFits : Bool}
    (h : nearer num den below above belowFits aboveFits = some digits) :
    digits = below ∧ belowFits ∨ digits = above ∧ aboveFits := by
  cases belowFits <;> cases aboveFits <;> simp only [nearer] at h
  · cases h
  · exact .inr ⟨(Option.some.inj h).symm, rfl⟩
  · exact .inl ⟨(Option.some.inj h).symm, rfl⟩
  · have h := Option.some.inj h
    split at h
    · exact .inl ⟨h.symm, rfl⟩
    · exact .inr ⟨h.symm, rfl⟩

theorem nearer_eq_none {num den below above : Nat} {belowFits aboveFits : Bool}
    (h : nearer num den below above belowFits aboveFits = none) :
    belowFits = false ∧ aboveFits = false := by
  cases belowFits <;> cases aboveFits <;> simp_all [nearer]

theorem shortestFrom_succ (num den : Nat) (point : Int) (left : Nat) :
    shortestFrom s e num den point (left + 1) =
      let power := point - (17 - left : Nat)
      let below := (shifted 10 num den power).1 / (shifted 10 num den power).2
      match nearer (shifted 10 num den power).1 (shifted 10 num den power).2 below (below + 1)
        (ofDecimal false below power == finite false s e)
        (ofDecimal false (below + 1) power == finite false s e) with
      | some digits => (digits, power)
      | none => shortestFrom s e num den point left := by
  rw [shortestFrom]
  rfl

/-- A step of the search ends with a candidate that reads back, or goes on if none does. -/
theorem shortestFrom_cases {num den : Nat} (point : Int) (left : Nat) {power : Int}
    (hpower : power = point - (17 - left : Nat)) {below : Nat}
    (hbelow : below = ⌊(num / den / 10 ^ power : ℚ)⌋₊) :
    (∃ candidate, (candidate = below ∨ candidate = below + 1) ∧
      ofDecimal false candidate power = finite false s e ∧
      shortestFrom s e num den point (left + 1) = (candidate, power)) ∨
    (ofDecimal false below power ≠ finite false s e ∧
      ofDecimal false (below + 1) power ≠ finite false s e ∧
      shortestFrom s e num den point (left + 1) = shortestFrom s e num den point left) := by
  have hshifted : (shifted 10 num den power).1 / (shifted 10 num den power).2 = below := by
    rw [hbelow, ← Nat.floor_div_eq_div (K := ℚ), shifted_ratio]
    rfl
  rw [shortestFrom_succ, ← hpower]
  simp only [hshifted]
  split <;> rename_i hfound
  · rcases nearer_eq_some hfound with ⟨rfl, hfits⟩ | ⟨rfl, hfits⟩
    · exact .inl ⟨_, .inl rfl, eq_of_beq hfits, rfl⟩
    · exact .inl ⟨_, .inr rfl, eq_of_beq hfits, rfl⟩
  · obtain ⟨hbelow, habove⟩ := nearer_eq_none hfound
    exact .inr ⟨ne_of_beq_false hbelow, ne_of_beq_false habove, rfl⟩

section Search
variable {num den places : Nat} {point : Int} {y : ℚ}

/-- The value in units of some decimal place, the first of its digits or one after it. -/
structure InUnits (s : Nat) (e : Int) (point : Int) (places : Nat) (y : ℚ) : Prop where
  proper : (finite false s e).isProper
  pos : 0 < s
  value : (s * 2 ^ e : ℚ) = y * 10 ^ (point - places)
  first : (10 : ℚ) ^ (point - 1) ≤ s * 2 ^ e
  last : (s * 2 ^ e : ℚ) < 10 ^ point

theorem InUnits.pow_le (h : InUnits s e point (places + 1) y) : 10 ^ places ≤ y := by
  have hfirst := h.first
  rw [h.value, show point - 1 = places + (point - (places + 1 : Nat)) by push_cast; ring,
    zpow_add₀ (by norm_num), mul_le_mul_iff_left₀ (by positivity), zpow_natCast] at hfirst
  exact hfirst

theorem InUnits.range (h : InUnits s e point (places + 1) y) (hplaces : places < 17)
    {candidate : Nat} (hc : candidate = ⌊y⌋₊ ∨ candidate = ⌊y⌋₊ + 1) :
    IsInRange (candidate * 10 ^ (point - (places + 1 : Nat))) := by
  have hy : 1 ≤ y := (one_le_pow₀ (by norm_num)).trans h.pow_le
  have hfloor : 1 ≤ ⌊y⌋₊ := (Nat.one_le_floor_iff y).mpr hy
  have hle : (⌊y⌋₊ : ℚ) ≤ y := Nat.floor_le (by linarith)
  have hone : (1 : ℚ) ≤ candidate := by
    rcases hc with rfl | rfl <;> exact mod_cast (by omega)
  have htwo : (candidate : ℚ) ≤ 2 * y := by
    rcases hc with rfl | rfl <;> push_cast <;> linarith
  obtain ⟨hlow, hhigh⟩ := magnitude_range h.proper h.pos
  have hpoint : -324 < point :=
    (zpow_lt_zpow_iff_right₀ (by norm_num)).mp (hlow.trans_lt h.last)
  constructor
  · calc (10 : ℚ) ^ (-400 : Int) ≤ 10 ^ (point - (places + 1 : Nat)) :=
          zpow_le_zpow_right₀ (by norm_num) (by push_cast; omega)
      _ ≤ candidate * 10 ^ (point - (places + 1 : Nat)) :=
          le_mul_of_one_le_left (by positivity) hone
  · calc (candidate * 10 ^ (point - (places + 1 : Nat)) : ℚ)
        ≤ 2 * y * 10 ^ (point - (places + 1 : Nat)) :=
          mul_le_mul_of_nonneg_right htwo (by positivity)
      _ = 2 * (s * 2 ^ e) := by rw [h.value]; ring
      _ < 2 * 10 ^ (309 : Int) := by linarith
      _ ≤ 10 ^ (1 : Int) * 10 ^ (309 : Int) := by
          exact mul_le_mul_of_nonneg_right (by norm_num) (by positivity)
      _ ≤ 10 ^ (400 : Int) := by
          rw [← zpow_add₀ (by norm_num)]
          exact zpow_le_zpow_right₀ (by norm_num) (by norm_num)

/-- Of the two decimals with 17 digits around a value, the nearer one reads back. -/
theorem InUnits.fits (h : InUnits s e point 17 y) :
    ofDecimal false ⌊y⌋₊ (point - (17 : Nat)) = finite false s e ∨
      ofDecimal false (⌊y⌋₊ + 1) (point - (17 : Nat)) = finite false s e := by
  have hy : 10 ^ 16 ≤ y := h.pow_le
  norm_num at hy
  have hle : (⌊y⌋₊ : ℚ) ≤ y := Nat.floor_le (by linarith)
  have hlt : y < ⌊y⌋₊ + 1 := Nat.lt_floor_add_one y
  have hnear : ∀ candidate : Nat, candidate = ⌊y⌋₊ ∨ candidate = ⌊y⌋₊ + 1 →
      |(candidate : ℚ) - y| ≤ 1 / 2 →
      ofDecimal false candidate (point - (17 : Nat)) = finite false s e := by
    intro candidate hc hhalf
    refine ofDecimal_near h.proper h.pos (h.range (show 16 < 17 by decide) hc) ?_
    have hunit : (0 : ℚ) < 10 ^ (point - (17 : Nat)) := by positivity
    rw [h.value, ← sub_mul, abs_mul, abs_of_pos hunit, mul_div_right_comm,
      mul_lt_mul_iff_left₀ hunit]
    norm_num
    linarith
  by_cases hhalf : y ≤ ⌊y⌋₊ + 1 / 2
  · exact .inl (hnear _ (.inl rfl) (abs_le.mpr ⟨by linarith, by linarith⟩))
  · exact .inr (hnear _ (.inr rfl) (abs_le.mpr ⟨by push_cast; linarith, by push_cast; linarith⟩))

theorem found_shortestFrom (hp : (finite false s e).isProper) (hs : 0 < s)
    (hvalue : (num / den : ℚ) = s * 2 ^ e) (hfirst : (10 : ℚ) ^ (point - 1) ≤ s * 2 ^ e)
    (hlast : (s * 2 ^ e : ℚ) < 10 ^ point) {left : Nat} (hleft : left < 17) :
    Found s e (shortestFrom s e num den point (left + 1)) := by
  obtain ⟨y, hy⟩ : ∃ y : ℚ, y = num / den / 10 ^ (point - (17 - left : Nat)) := ⟨_, rfl⟩
  have hplaces : 17 - left = (16 - left) + 1 := by omega
  have hunits : InUnits s e point (17 - left) y :=
    ⟨hp, hs, by rw [hy, hvalue, div_mul_cancel₀ _ (by positivity)], hfirst, hlast⟩
  rcases shortestFrom_cases (s := s) (e := e) point left rfl (congrArg Nat.floor hy.symm).symm with
    ⟨candidate, hc, hfits, hfound⟩ | ⟨hbelow, habove, hfound⟩
  · rw [hfound]
    rw [hplaces] at hunits ⊢
    exact ⟨hplaces ▸ hfits, hunits.range (by omega) hc⟩
  · rw [hfound]
    cases left with
    | zero => exact (hunits.fits.elim hbelow habove).elim
    | succ left => exact found_shortestFrom hp hs hvalue hfirst hlast (by omega)

end Search

/-- The shortest decimal of a double reads back as the double. -/
theorem found_shortest (hp : (finite false s e).isProper) (hs : 0 < s) :
    Found s e (shortest s e) := by
  have hd : 0 < (ratio s e).2 := by
    unfold ratio
    split
    · exact Nat.pow_pos (by decide)
    · exact Nat.one_pos
  have hvalue : ((ratio s e).1 / (ratio s e).2 : ℚ) = s * 2 ^ e := by
    unfold ratio
    split <;> rename_i he
    · rw [zpow_of_neg he, div_eq_mul_inv]
      norm_cast
    · rw [zpow_of_nonneg he]
      push_cast
      rw [div_one]
      norm_cast
  have hpos : (0 : ℚ) < (ratio s e).1 / (ratio s e).2 := by
    rw [hvalue]
    have : (0 : ℚ) < s := mod_cast hs
    positivity
  have hn : 0 < (ratio s e).1 := by
    have hden : (0 : ℚ) < (ratio s e).2 := mod_cast hd
    exact mod_cast (div_pos_iff_of_pos_right hden).mp hpos
  have hpoint := decimalPoint_eq hn hd
  have hfirst : (10 : ℚ) ^ (decimalPoint (ratio s e).1 (ratio s e).2 - 1) ≤ s * 2 ^ e := by
    rw [hpoint, add_sub_cancel_right, ← hvalue]
    exact mod_cast Int.zpow_log_le_self (by decide) hpos
  have hlast : (s * 2 ^ e : ℚ) < 10 ^ decimalPoint (ratio s e).1 (ratio s e).2 := by
    rw [hpoint, ← hvalue]
    exact mod_cast Int.lt_zpow_succ_log_self (by decide) _
  exact found_shortestFrom hp hs hvalue hfirst hlast (by decide)

end Proper

theorem negate_carried (rounded : Nat) (exponent : Int) :
    (carried false rounded exponent).negate = carried true rounded exponent := by
  unfold carried
  generalize (if rounded == Nat.pow 2 53 then _ else _ : Nat × Int) = parts
  dsimp only
  split <;> rfl

theorem negate_ofRatio (num den : Nat) : (ofRatio false num den).negate = ofRatio true num den := by
  obtain rfl | hn := Nat.eq_zero_or_pos num
  · rw [ofRatio_zero, ofRatio_zero]
    rfl
  · rw [ofRatio_eq hn, ofRatio_eq hn, negate_carried]

/-- The sign of a decimal is the sign of its double. -/
theorem negate_ofDecimal (digits : Nat) (power : Int) :
    (ofDecimal false digits power).negate = ofDecimal true digits power := by
  rw [ofDecimal, ofDecimal]
  split
  · rfl
  · split
    · rfl
    · split
      · rfl
      · split <;> exact negate_ofRatio _ _

end EditorBlocks.Binary64
