import Mathlib.Data.List.TakeWhile
import EditorBlocks.Proofs.Number.Shortest
import EditorBlocks.Text.Digit
/-! Decimal digits: the number that they make, and those that a double is shown with. -/

namespace EditorBlocks

namespace Text

theorem asciiValue_eq (cs : List Char) : asciiValue cs = Nat.ofDigitChars 10 cs 0 := by
  simp [asciiValue, Nat.ofDigitChars_eq_foldl, Nat.mul_comm]

theorem asciiValue_append (cs ds : List Char) :
    asciiValue (cs ++ ds) = asciiValue cs * 10 ^ ds.length + asciiValue ds := by
  rw [asciiValue_eq, asciiValue_eq, asciiValue_eq, Nat.ofDigitChars_append,
    Nat.ofDigitChars_eq_ofDigitChars_zero, Nat.mul_comm]

theorem asciiValue_replicate_zero (n : Nat) : asciiValue (List.replicate n '0') = 0 := by
  rw [asciiValue_eq, Nat.ofDigitChars_replicate_zero, Nat.mul_zero]

/-- Zeros before the digits do not count. -/
theorem asciiValue_zeros_append (n : Nat) (cs : List Char) :
    asciiValue (List.replicate n '0' ++ cs) = asciiValue cs := by
  rw [asciiValue_append, asciiValue_replicate_zero, Nat.zero_mul, Nat.zero_add]

theorem asciiValue_append_zeros (n : Nat) (cs : List Char) :
    asciiValue (cs ++ List.replicate n '0') = asciiValue cs * 10 ^ n := by
  rw [asciiValue_append, asciiValue_replicate_zero, List.length_replicate, Nat.add_zero]

theorem asciiValue_toDigits (n : Nat) : asciiValue (Nat.toDigits 10 n) = n := by
  rw [asciiValue_eq, Nat.ofDigitChars_ten_toDigits]

theorem isAsciiDigit_eq (c : Char) : isAsciiDigit c = c.isDigit := rfl

theorem all_isAsciiDigit_toDigits (n : Nat) : (Nat.toDigits 10 n).all isAsciiDigit := by
  rw [List.all_eq_true]
  intro c hc
  rw [isAsciiDigit_eq]
  exact Nat.isDigit_of_mem_toDigits (by decide) (by decide) hc

/-- Digits that do not begin with a zero. -/
def IsNumeral (cs : List Char) : Prop := cs.all isAsciiDigit ∧ ∃ c ds, cs = c :: ds ∧ c ≠ '0'

theorem isNumeral_toDigits {n : Nat} (hn : 0 < n) : IsNumeral (Nat.toDigits 10 n) := by
  refine ⟨all_isAsciiDigit_toDigits n, ?_⟩
  induction n using Nat.strong_induction_on with
  | _ n ih =>
    rw [Nat.toDigits_eq_if (by decide)]
    split
    · refine ⟨n.digitChar, [], rfl, ?_⟩
      rw [Ne, Nat.digitChar_eq_zero]
      omega
    · obtain ⟨c, ds, hds, hc⟩ := ih (n / 10) (by omega) (by omega)
      exact ⟨c, ds ++ [(n % 10).digitChar], by rw [hds]; rfl, hc⟩

/-- Digits without the zeros at their end. -/
def stripZeros (cs : List Char) : List Char := (cs.reverse.dropWhile (· == '0')).reverse

theorem exists_stripZeros_append (cs : List Char) :
    ∃ n, stripZeros cs ++ List.replicate n '0' = cs := by
  refine ⟨(cs.reverse.takeWhile (· == '0')).length, ?_⟩
  have hzeros : ∀ c ∈ cs.reverse.takeWhile (· == '0'), c = '0' := fun c hc =>
    eq_of_beq (List.mem_takeWhile_imp (p := (· == '0')) hc)
  rw [stripZeros, ← List.reverse_replicate, ← List.eq_replicate_of_mem hzeros, ← List.reverse_append,
    List.takeWhile_append_dropWhile, List.reverse_reverse]

theorem IsNumeral.stripZeros {cs : List Char} (h : IsNumeral cs) : IsNumeral (stripZeros cs) := by
  obtain ⟨hall, c, ds, hds, hc⟩ := h
  obtain ⟨n, hn⟩ := exists_stripZeros_append cs
  refine ⟨?_, ?_⟩
  · rw [← hn, List.all_append, Bool.and_eq_true] at hall
    exact hall.1
  · cases hstrip : Text.stripZeros cs with
    | nil =>
      -- a numeral is not made of zeros
      rw [hstrip, List.nil_append, hds] at hn
      cases n with
      | zero => cases hn
      | succ n => exact absurd (List.cons.inj hn).1.symm hc
    | cons d es =>
      rw [hstrip, hds, List.cons_append] at hn
      exact ⟨d, es, rfl, (List.cons.inj hn).1 ▸ hc⟩

end Text

namespace Binary64
variable {s : Nat} {e : Int}

/-- Digits and the place of the point among them tell a magnitude. -/
structure Tells (s : Nat) (e : Int) (digits : List Char) (point : Int) : Prop where
  numeral : Text.IsNumeral digits
  found : Found s e (Text.asciiValue digits, point - digits.length)

theorem tells_digitsOf (hp : (finite false s e).isProper) (hs : 0 < s) :
    Tells s e (digitsOf s e).1 (digitsOf s e).2 := by
  have hfound := found_shortest hp hs
  unfold digitsOf
  rw [if_neg (by simpa using hs.ne')]
  generalize shortest s e = decimal at hfound
  obtain ⟨digits, power⟩ := decimal
  have hnumeral := Text.isNumeral_toDigits (pos_of_isInRange hfound.range)
  obtain ⟨zeros, hzeros⟩ := Text.exists_stripZeros_append (Nat.toDigits 10 digits)
  refine ⟨hnumeral.stripZeros, ?_⟩
  have hvalue := Text.asciiValue_append_zeros zeros (Text.stripZeros (Nat.toDigits 10 digits))
  have hlength := congrArg List.length hzeros
  rw [hzeros, Text.asciiValue_toDigits] at hvalue
  rw [List.length_append, List.length_replicate] at hlength
  change Found s e (Text.asciiValue (Text.stripZeros (Nat.toDigits 10 digits)),
    (Nat.toDigits 10 digits).length + power - (Text.stripZeros (Nat.toDigits 10 digits)).length)
  generalize Text.stripZeros (Nat.toDigits 10 digits) = kept at *
  have hsame : (digits * 10 ^ power : ℚ) = Text.asciiValue kept *
      10 ^ ((Nat.toDigits 10 digits).length + power - kept.length) := by
    rw [← hlength, hvalue, show (((kept.length + zeros : Nat) : Int) + power - kept.length) =
      zeros + power by push_cast; ring, zpow_add₀ (by norm_num), zpow_natCast]
    push_cast
    ring
  exact ⟨(ofDecimal_congr hfound.range hsame).symm.trans hfound.fits, hsame ▸ hfound.range⟩

/-- Another decimal of the same value reads back with the sign. -/
theorem Found.ofDecimal {found : Nat × Int} (h : Found s e found) {negative : Bool}
    {digits : Nat} {power : Int} (hvalue : (found.1 * 10 ^ found.2 : ℚ) = digits * 10 ^ power) :
    ofDecimal negative digits power = finite negative s e := by
  rw [← ofDecimal_congr h.range hvalue]
  cases negative with
  | false => exact h.fits
  | true => rw [← negate_ofDecimal, h.fits]; rfl

end Binary64
end EditorBlocks
