import EditorBlocks.Text.Digit
/-!
Characters by their code points.
-/

namespace EditorBlocks.Text

/-- The character with this code point; a number without a character gives the replacement mark. -/
def codePoint (n : Nat) : Char := if n.isValidChar then Char.ofNat n else '\uFFFD'

/-- Whether a number is one half of a pair and no character. -/
def isSurrogate (n : Nat) : Bool := 0xD800 ≤ n && n ≤ 0xDFFF

/-- What begins with an escape of half a pair, in four or eight hexadecimal digits. -/
def BeginsHalfEscape (cs : List Char) : Prop :=
  ∃ letter width rest code, cs = '\\' :: letter :: rest ∧
    (letter, width) ∈ [('u', 4), ('U', 8)] ∧ hexPrefix? width rest = some code ∧ isSurrogate code

def HasHalfEscape (cs : List Char) : Prop := ∃ ds, ds <:+ cs ∧ BeginsHalfEscape ds

theorem HasHalfEscape.mono {cs ds : List Char} (h : HasHalfEscape cs) (hs : cs <:+ ds) :
    HasHalfEscape ds := by
  obtain ⟨es, hes, hbegins⟩ := h
  exact ⟨es, hes.trans hs, hbegins⟩

theorem isSurrogate_toNat (c : Char) : isSurrogate c.toNat = false := by
  have h : c.toNat.isValidChar := c.valid
  unfold Nat.isValidChar at h
  simp only [isSurrogate, Bool.and_eq_false_iff, decide_eq_false_iff_not]
  omega

theorem codePoint_toNat (c : Char) : codePoint c.toNat = c := by
  have h : c.toNat.isValidChar := c.valid
  rw [codePoint, if_pos h, Char.ofNat_toNat]

end EditorBlocks.Text
