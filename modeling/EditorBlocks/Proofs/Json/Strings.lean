import EditorBlocks.Proofs.Json.Numbers
/-! The text of a string is read back as the string, whichever characters are escaped in it. -/

namespace EditorBlocks

namespace Text

theorem hexValue?_hexDigit {n : Nat} (h : n < 16) : hexValue? (hexDigit n) = some n := by
  have hall : ∀ m < 16, hexValue? (hexDigit m) = some m := by decide
  exact hall n h

@[simp] theorem length_hexDigits (width n : Nat) : (hexDigits width n).length = width := by
  induction width generalizing n with
  | zero => rfl
  | succ width ih => simp [hexDigits, ih]

theorem all_isHexDigit_hexDigits (width n : Nat) : (hexDigits width n).all isHexDigit := by
  induction width generalizing n with
  | zero => rfl
  | succ width ih =>
    have hlast : isHexDigit (hexDigit (n % 16)) := by
      rw [isHexDigit, hexValue?_hexDigit (Nat.mod_lt n (by decide))]
      rfl
    simp [hexDigits, ih, hlast]

theorem hexNumber_hexDigits {width n : Nat} (h : n < 16 ^ width) :
    hexNumber (hexDigits width n) = n := by
  induction width generalizing n with
  | zero =>
    rw [Nat.pow_zero, Nat.lt_one_iff] at h
    exact h.symm
  | succ width ih =>
    have hrest := ih (n := n / 16) (by rw [Nat.pow_succ] at h; omega)
    unfold hexNumber at hrest ⊢
    rw [hexDigits, List.foldl_append, hrest]
    simp only [List.foldl_cons, List.foldl_nil, hexValue?_hexDigit (Nat.mod_lt n (by decide))]
    exact Nat.div_add_mod' n 16

/-- Hexadecimal digits are read back as the number. -/
theorem hexPrefix?_hexDigits (width : Nat) {n : Nat} (h : n < 16 ^ width) (left : List Char) :
    hexPrefix? width (hexDigits width n ++ left) = some n := by
  have htake : (hexDigits width n ++ left).take width = hexDigits width n :=
    List.take_left' (length_hexDigits width n)
  have hall : (hexDigits width n).takeWhile isHexDigit = hexDigits width n :=
    List.takeWhile_eq_self_iff.mpr (List.all_eq_true.mp (all_isHexDigit_hexDigits width n))
  simp only [hexPrefix?, htake, hall, length_hexDigits, ↓reduceIte, hexNumber_hexDigits h]

end Text

namespace Json

section Step
variable (start fuel position : Nat) (chunk : List Char) {left : List Char}

/-- An escape of one unit that is no half of a pair. -/
theorem readString_unitEscape {n : Nat} (hn : n < 0x10000) (hwhole : Text.isSurrogate n = false)
    (hleft : left ≠ []) : ∃ position',
      readString start (fuel + 1) ⟨unitEscape n ++ left, position⟩ chunk =
        readString start fuel ⟨left, position'⟩ (Text.codePoint n :: chunk) := by
  have hpos := List.length_pos_of_ne_nil hleft
  have hhigh : isHighSurrogate n = false := by
    simp only [Text.isSurrogate, isHighSurrogate, Bool.and_eq_false_iff,
      decide_eq_false_iff_not] at hwhole ⊢
    omega
  refine ⟨position + 6, ?_⟩
  rw [unitEscape, List.cons_append, List.cons_append, readString]
  simp only [List.length_append, Text.length_hexDigits,
    Text.hexPrefix?_hexDigits 4 hn, hhigh, hwhole, Bool.false_and, Bool.false_eq_true,
    ↓reduceIte,
    List.drop_left' (Text.length_hexDigits 4 n)]
  rw [if_neg (by omega)]

/-- Escapes of the two units of a pair. -/
theorem readString_pairEscape {n : Nat} (hlow : 0x10000 ≤ n) (hhigh : n < 0x110000)
    (hleft : left ≠ []) : ∃ position',
      readString start (fuel + 1) ⟨unitEscape (0xD800 + (n - 0x10000) / 0x400) ++
        (unitEscape (0xDC00 + (n - 0x10000) % 0x400) ++ left), position⟩ chunk =
        readString start fuel ⟨left, position'⟩ (Text.codePoint n :: chunk) := by
  have hpos := List.length_pos_of_ne_nil hleft
  obtain ⟨high, hhigh'⟩ : ∃ high, high = 0xD800 + (n - 0x10000) / 0x400 := ⟨_, rfl⟩
  obtain ⟨low, hlow'⟩ : ∃ low, low = 0xDC00 + (n - 0x10000) % 0x400 := ⟨_, rfl⟩
  have hishigh : isHighSurrogate high := by
    simp only [isHighSurrogate, Bool.and_eq_true, decide_eq_true_eq]
    omega
  have hislow : isLowSurrogate low := by
    simp only [isLowSurrogate, Bool.and_eq_true, decide_eq_true_eq]
    omega
  have hjoined : 0x10000 + (high - 0xD800) * 0x400 + (low - 0xDC00) = n := by omega
  refine ⟨position + 12, ?_⟩
  rw [← hhigh', ← hlow', unitEscape, unitEscape, List.cons_append, List.cons_append, readString]
  simp only [List.cons_append, List.length_append, List.length_cons,
    Text.length_hexDigits, List.drop_left' (Text.length_hexDigits 4 high), hishigh, Bool.true_and,
    Text.hexPrefix?_hexDigits 4 (show high < 16 ^ 4 by omega), List.drop_succ_cons,
    List.drop_zero, List.take_succ_cons, List.take_zero,
    Text.hexPrefix?_hexDigits 4 (show low < 16 ^ 4 by omega), hislow, hjoined,
    List.drop_left' (Text.length_hexDigits 4 low), ↓reduceIte]
  rw [if_neg (by omega), if_pos (by simp; omega)]

/-- A character that is neither the quote, the escape mark nor a control character. -/
theorem readString_plain {c : Char} (hquote : c ≠ '"') (hmark : c ≠ '\\') (hc : ¬ c.toNat < 32) :
    readString start (fuel + 1) ⟨c :: left, position⟩ chunk =
      readString start fuel ⟨left, position + 1⟩ (c :: chunk) := by
  rw [readString, if_neg hc]
  · exact hquote
  · exact fun h => absurd h hmark
  · exact fun _ h => absurd h hmark
  · exact fun _ _ h => absurd h hmark

/-- An escape of two characters. -/
theorem readString_simpleEscape {c plain : Char} (hc : c ≠ 'u') (h : simpleEscape? c = some plain) :
    readString start (fuel + 1) ⟨'\\' :: c :: left, position⟩ chunk =
      readString start fuel ⟨left, position + 2⟩ (plain :: chunk) := by
  rw [readString, h]
  exact hc

/-- The forms in which a character is written. -/
inductive Writes (c : Char) : List Char → Prop
  | plain (hquote : c ≠ '"') (hmark : c ≠ '\\') (hcontrol : ¬ c.toNat < 32) : Writes c [c]
  | simple {d : Char} (hd : d ≠ 'u') (h : simpleEscape? d = some c) : Writes c ['\\', d]
  | unit (h : c.toNat < 0x10000) : Writes c (unitEscape c.toNat)
  | pair (h : 0x10000 ≤ c.toNat) : Writes c (unitEscape (0xD800 + (c.toNat - 0x10000) / 0x400) ++
      unitEscape (0xDC00 + (c.toNat - 0x10000) % 0x400))

theorem writes_escapedChar (charset : Charset) (c : Char) : Writes c (escapedChar charset c) := by
  have hsimple : ∀ d plain : Char, d ≠ 'u' → simpleEscape? d = some plain → (c == plain) = true →
      Writes c ['\\', d] := fun d plain hd hplain h => .simple hd (eq_of_beq h ▸ hplain)
  unfold escapedChar
  dsimp only
  by_cases hquote : c == '"'
  · rw [if_pos hquote]
    exact hsimple '"' _ (by decide) rfl hquote
  rw [if_neg hquote]
  by_cases hmark : c == '\\'
  · rw [if_pos hmark]
    exact hsimple '\\' _ (by decide) rfl hmark
  rw [if_neg hmark]
  by_cases hline : c == '\n'
  · rw [if_pos hline]
    exact hsimple 'n' _ (by decide) rfl hline
  rw [if_neg hline]
  by_cases hreturn : c == '\r'
  · rw [if_pos hreturn]
    exact hsimple 'r' _ (by decide) rfl hreturn
  rw [if_neg hreturn]
  by_cases htab : c == '\t'
  · rw [if_pos htab]
    exact hsimple 't' _ (by decide) rfl htab
  rw [if_neg htab]
  by_cases hfeed : c == '\x0c'
  · rw [if_pos hfeed]
    exact hsimple 'f' _ (by decide) rfl hfeed
  rw [if_neg hfeed]
  by_cases hback : c == '\x08'
  · rw [if_pos hback]
    exact hsimple 'b' _ (by decide) rfl hback
  rw [if_neg hback]
  by_cases hcontrol : c.toNat < 32
  · rw [if_pos hcontrol]
    exact .unit (by omega)
  rw [if_neg hcontrol]
  by_cases hplain : charset == .unicode || c.toNat < 127
  · rw [if_pos hplain]
    exact .plain (by simpa using hquote) (by simpa using hmark) hcontrol
  rw [if_neg hplain]
  by_cases hsmall : c.toNat < 0x10000
  · rw [if_pos hsmall]
    exact .unit hsmall
  rw [if_neg hsmall]
  exact .pair (not_lt.mp hsmall)

theorem Writes.length_pos {c : Char} {cs : List Char} (h : Writes c cs) : 0 < cs.length := by
  cases h <;> simp [unitEscape]

/-- A character in any of its forms is read as the character. -/
theorem Writes.readString {c : Char} {cs : List Char} (h : Writes c cs) (hleft : left ≠ []) :
    ∃ position', readString start (fuel + 1) ⟨cs ++ left, position⟩ chunk =
      readString start fuel ⟨left, position'⟩ (c :: chunk) := by
  have hvalid : c.toNat.isValidChar := c.valid
  unfold Nat.isValidChar at hvalid
  cases h with
  | plain hquote hmark hcontrol => exact ⟨position + 1, readString_plain start fuel position chunk hquote hmark hcontrol⟩
  | simple hd h => exact ⟨position + 2, readString_simpleEscape start fuel position chunk hd h⟩
  | unit hsmall =>
    have hstep := readString_unitEscape start fuel position chunk hsmall
      (Text.isSurrogate_toNat c) hleft
    rwa [Text.codePoint_toNat] at hstep
  | pair hlarge =>
    have hstep := readString_pairEscape start fuel position chunk hlarge (by omega) hleft
    rwa [Text.codePoint_toNat, ← List.append_assoc] at hstep

theorem length_le_flatMap_escapedChar (charset : Charset) (cs : List Char) :
    cs.length ≤ (cs.flatMap (escapedChar charset)).length := by
  induction cs with
  | nil => exact Nat.le_refl 0
  | cons c cs ih =>
    have hc := (writes_escapedChar charset c).length_pos
    rw [List.flatMap_cons, List.length_append, List.length_cons]
    omega

/-- The characters up to the closing quote are read, one for each that was written. -/
theorem readString_body (charset : Charset) {cs : List Char} (hfuel : cs.length < fuel)
    (left : List Char) :
    Yields (readString start fuel ⟨cs.flatMap (escapedChar charset) ++ '"' :: left, position⟩ chunk)
      (String.ofList (chunk.reverse ++ cs)) left := by
  induction cs generalizing fuel position chunk with
  | nil =>
    obtain ⟨fuel, rfl⟩ := Nat.exists_eq_succ_of_ne_zero (Nat.ne_zero_of_lt hfuel)
    exact ⟨position + 1, by rw [List.append_nil]; rfl⟩
  | cons c cs ih =>
    obtain ⟨fuel, rfl⟩ := Nat.exists_eq_succ_of_ne_zero (Nat.ne_zero_of_lt hfuel)
    have hleft : cs.flatMap (escapedChar charset) ++ '"' :: left ≠ [] := by simp
    obtain ⟨position', hstep⟩ := (writes_escapedChar charset c).readString start fuel position chunk hleft
    have hrest := ih fuel position' (c :: chunk) (Nat.lt_of_succ_lt_succ hfuel)
    rw [List.reverse_cons, List.append_assoc] at hrest
    rw [List.flatMap_cons, List.append_assoc, hstep]
    exact hrest

/-- A string is read from its opening quote on. -/
theorem readString_stringChars (charset : Charset) (s : String) (left : List Char) (start : Nat) :
    ∃ body, stringChars charset s ++ left = '"' :: body ∧
      Yields (readString start (body.length + 1) ⟨body, start + 1⟩ []) s left := by
  refine ⟨s.toList.flatMap (escapedChar charset) ++ '"' :: left, ?_, ?_⟩
  · rw [stringChars, List.cons_append, List.append_assoc]
    rfl
  · have hlength := length_le_flatMap_escapedChar charset s.toList
    have hread := readString_body start
      ((s.toList.flatMap (escapedChar charset) ++ '"' :: left).length + 1) (start + 1) [] charset
      (show s.toList.length < _ by rw [List.length_append]; omega) left
    rwa [List.reverse_nil, List.nil_append, String.ofList_toList] at hread

end Step

end Json
end EditorBlocks
