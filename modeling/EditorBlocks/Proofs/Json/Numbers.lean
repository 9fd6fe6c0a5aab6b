import EditorBlocks.Data.Json.Reader
import EditorBlocks.Data.Json.Writer
import EditorBlocks.Proofs.Number.Digits
/-! The text of a number is read back as the number. -/

namespace EditorBlocks.Json

/-- A step of reading has come to this, and these characters are left. -/
def Yields {α : Type} (x : Reading (α × Rest)) (a : α) (left : List Char) : Prop :=
  ∃ position, x = .ok (a, ⟨left, position⟩)

theorem Yields.bind {α β : Type} {x : Reading (α × Rest)} {f : α × Rest → Reading (β × Rest)}
    {a : α} {b : β} {left left' : List Char} (h : Yields x a left)
    (hf : ∀ position, Yields (f (a, ⟨left, position⟩)) b left') : Yields (x >>= f) b left' := by
  obtain ⟨position, rfl⟩ := h
  exact hf position

/-- Characters that do not go on with digits. -/
def NoDigit (cs : List Char) : Prop := ∀ c ∈ cs.head?, Text.isAsciiDigit c = false

/-- Characters that do not go on with a number. -/
def NoNumber (cs : List Char) : Prop :=
  ∀ c ∈ cs.head?, Text.isAsciiDigit c = false ∧ c ≠ '.' ∧ c ≠ 'e' ∧ c ≠ 'E'

theorem NoNumber.noDigit {cs : List Char} (h : NoNumber cs) : NoDigit cs := fun c hc => (h c hc).1

theorem noDigit_cons {c : Char} {cs : List Char} (h : Text.isAsciiDigit c = false) :
    NoDigit (c :: cs) := by
  rintro d ⟨⟩
  exact h

theorem takeWhile_digits {digits left : List Char} (hd : digits.all Text.isAsciiDigit)
    (hl : NoDigit left) : (digits ++ left).takeWhile Text.isAsciiDigit = digits := by
  rw [List.takeWhile_append_of_pos (List.all_eq_true.mp hd)]
  cases left with
  | nil => simp
  | cons c cs => simp [hl c rfl]

/-- The parts of a number as they are written. -/
structure Numeral where
  negative : Bool
  whole : List Char
  fraction : List Char
  exponent : List Char

namespace Numeral

def sign (n : Numeral) : List Char := if n.negative then ['-'] else []

def text (n : Numeral) : List Char := n.sign ++ (n.whole ++ (n.fraction ++ n.exponent))

/-- The grammar of numbers, as far as it is used. -/
structure IsWritten (n : Numeral) : Prop where
  whole : n.whole = ['0'] ∨ Text.IsNumeral n.whole
  fraction : n.fraction = [] ∨
    ∃ ds, n.fraction = '.' :: ds ∧ ds.all Text.isAsciiDigit ∧ ds ≠ []
  exponent : n.exponent = [] ∨
    ∃ sign ds, n.exponent = 'e' :: sign :: ds ∧ (sign = '+' ∨ sign = '-') ∧
      ds.all Text.isAsciiDigit ∧ ds ≠ []

variable {n : Numeral} {left : List Char}

theorem IsWritten.noDigit (h : n.IsWritten) (hl : NoNumber left) :
    NoDigit (n.fraction ++ (n.exponent ++ left)) := by
  rcases h.fraction with hf | ⟨ds, hf, -⟩ <;> rw [hf]
  · rcases h.exponent with he | ⟨sign, ds, he, -⟩ <;> rw [he]
    · exact hl.noDigit
    · exact noDigit_cons (by decide)
  · exact noDigit_cons (by decide)

theorem IsWritten.wholePart (h : n.IsWritten) (hl : NoNumber left) :
    wholePart (n.whole ++ (n.fraction ++ (n.exponent ++ left))) = n.whole := by
  rcases h.whole with hw | ⟨hall, c, ds, hw, hc⟩
  · rw [hw]
    rfl
  · have htake := takeWhile_digits hall (h.noDigit hl)
    rw [hw] at htake ⊢
    unfold Json.wholePart
    split
    · rename_i heq
      exact absurd (List.cons.inj heq).1 hc
    · exact htake

theorem IsWritten.fractionPart (h : n.IsWritten) (hl : NoNumber left) :
    fractionPart (n.fraction ++ (n.exponent ++ left)) = n.fraction := by
  rcases h.fraction with hf | ⟨ds, hf, hall, hne⟩ <;> rw [hf]
  · rcases h.exponent with he | ⟨sign, ds, he, -⟩ <;> rw [he]
    · cases left with
      | nil => rfl
      | cons c cs =>
        unfold Json.fractionPart
        split
        · rename_i heq
          exact absurd (List.cons.inj heq).1 (hl c rfl).2.1
        · rfl
    · rfl
  · have hnext : NoDigit (n.exponent ++ left) := by
      rcases h.exponent with he | ⟨sign, ds, he, -⟩ <;> rw [he]
      · exact hl.noDigit
      · exact noDigit_cons (by decide)
    simp only [Json.fractionPart, List.cons_append, takeWhile_digits hall hnext]
    rw [if_neg (by simpa using hne)]

theorem IsWritten.exponentPart (h : n.IsWritten) (hl : NoNumber left) :
    exponentPart (n.exponent ++ left) = n.exponent := by
  rcases h.exponent with he | ⟨sign, ds, he, hsign, hall, hne⟩ <;> rw [he]
  · cases left with
    | nil => rfl
    | cons c cs =>
      obtain ⟨-, -, he, hE⟩ := hl c rfl
      simp [Json.exponentPart, he, hE]
  · have htake := takeWhile_digits hall hl.noDigit
    rcases hsign with rfl | rfl <;>
      simp [Json.exponentPart, htake, hne]

/-- The number of a text in parts. -/
theorem IsWritten.readNumber (h : n.IsWritten) (hl : NoNumber left) (position : Nat) :
    ∃ position', readNumber ⟨n.text ++ left, position⟩ =
      if n.fraction.isEmpty && n.exponent.isEmpty then
        if Text.digitLimit < n.whole.length then .error .tooManyDigits
        else .ok (.int (if n.negative then -(Text.asciiValue n.whole : Int)
          else Text.asciiValue n.whole), ⟨left, position'⟩)
      else .ok (.float (Binary64.ofDecimal n.negative
          (Text.asciiValue (n.whole ++ n.fraction.drop 1))
          (exponentValue n.exponent - (n.fraction.drop 1).length)), ⟨left, position'⟩) := by
  have hhead : ((n.text ++ left).head? == some '-') = n.negative := by
    unfold text sign
    cases n.negative with
    | true => rfl
    | false =>
      rcases h.whole with hw | ⟨hall, c, ds, hw, -⟩ <;> rw [hw]
      · rfl
      · rw [hw, List.all_cons, Bool.and_eq_true] at hall
        refine beq_eq_false_iff_ne.mpr fun hc => ?_
        rw [Option.some.inj hc] at hall
        exact absurd hall.1 (by decide)
  have hbody : (if n.negative then (n.text ++ left).drop 1 else n.text ++ left) =
      n.whole ++ (n.fraction ++ (n.exponent ++ left)) := by
    unfold text sign
    cases n.negative <;> simp
  have hwhole : n.whole.isEmpty = false := by
    rcases h.whole with hw | ⟨-, c, ds, hw, -⟩ <;> rw [hw] <;> rfl
  have hdrop : (n.text ++ left).drop ((if n.negative then 1 else 0) + n.whole.length +
      n.fraction.length + n.exponent.length) = left := by
    have hlength : n.text.length = (if n.negative then 1 else 0) + n.whole.length +
        n.fraction.length + n.exponent.length := by
      unfold text sign
      split <;> simp <;> omega
    rw [← hlength, List.drop_left]
  have hexponent : (n.whole ++ (n.fraction ++ (n.exponent ++ left))).drop
      (n.whole.length + n.fraction.length) = n.exponent ++ left := by
    rw [← List.drop_drop, List.drop_left, List.drop_left]
  refine ⟨position + ((if n.negative then 1 else 0) + n.whole.length + n.fraction.length +
    n.exponent.length), ?_⟩
  unfold Json.readNumber
  simp only [hhead, hbody, h.wholePart hl, List.drop_left, h.fractionPart hl, hexponent,
    h.exponentPart hl, hwhole, Rest.advance, hdrop, Bool.false_eq_true, ↓reduceIte]

end Numeral

/-- Characters that make up a number, and are read as it. -/
def Spells (cs : List Char) (v : Value) : Prop :=
  ∃ n : Numeral, n.IsWritten ∧ cs = n.text ∧ ∀ left position, NoNumber left →
    Yields (readNumber ⟨n.text ++ left, position⟩) v left

/-! ### Whole numbers -/

theorem toList_toString (n : Int) :
    (toString n).toList = (if n < 0 then ['-'] else []) ++ Nat.toDigits 10 n.natAbs := by
  cases n with
  | ofNat m =>
    rw [if_neg (by simp)]
    exact Nat.toList_repr
  | negSucc m =>
    rw [if_pos (Int.negSucc_lt_zero m)]
    change ("-" ++ Nat.repr (m + 1)).toList = _
    rw [String.toList_append, Nat.toList_repr]
    rfl

/-- A whole number is read back, if its text is short enough to be read. -/
theorem spells_wholeText {m : Int} (hm : Text.fitsDigitLimit m) :
    Spells (toString m).toList (.int m) := by
  have hwritten : (Numeral.mk (m < 0) (Nat.toDigits 10 m.natAbs) [] []).IsWritten := by
    refine ⟨?_, .inl rfl, .inl rfl⟩
    obtain hzero | hpos := Nat.eq_zero_or_pos m.natAbs
    · exact .inl (by rw [hzero]; rfl)
    · exact .inr (Text.isNumeral_toDigits hpos)
  have hlength : ¬ Text.digitLimit < (Nat.toDigits 10 m.natAbs).length :=
    not_lt.mpr (of_decide_eq_true hm)
  refine ⟨_, hwritten, ?_, fun left position hl => ?_⟩
  · rw [toList_toString, Numeral.text, Numeral.sign]
    simp
  · obtain ⟨position', hread⟩ := hwritten.readNumber hl position
    refine ⟨position', hread.trans ?_⟩
    simp only [List.isEmpty_nil, Bool.and_self, ↓reduceIte, hlength, Text.asciiValue_toDigits,
      decide_eq_true_eq]
    congr 4
    omega

/-! ### Doubles -/

theorem exponentValue_text (power : Int) :
    exponentValue ('e' :: Binary64.exponentText power) = power := by
  have hdigits : Text.asciiValue (if (Nat.toDigits 10 power.natAbs).length < 2 then
      '0' :: Nat.toDigits 10 power.natAbs else Nat.toDigits 10 power.natAbs) = power.natAbs := by
    split
    · exact (Text.asciiValue_zeros_append 1 _).trans (Text.asciiValue_toDigits _)
    · exact Text.asciiValue_toDigits _
  unfold Binary64.exponentText
  dsimp only
  generalize (if (Nat.toDigits 10 power.natAbs).length < 2 then _ else _ : List Char) = ds at *
  split <;> simp only [exponentValue, hdigits] <;> omega

/-- A numeral that is no whole number shows digits around a point. -/
structure Numeral.Shows (n : Numeral) (digits : List Char) (point : Int) : Prop where
  written : n.IsWritten
  text : n.text = n.sign ++ Binary64.layout digits point
  broken : (n.fraction.isEmpty && n.exponent.isEmpty) = false
  value : (Text.asciiValue digits * 10 ^ (point - digits.length) : ℚ) =
    Text.asciiValue (n.whole ++ n.fraction.drop 1) *
      10 ^ (exponentValue n.exponent - (n.fraction.drop 1).length)

section Shows
variable {digits : List Char} {point : Int}

theorem exponentText_eq (power : Int) : ∃ sign ds,
    Binary64.exponentText power = sign :: ds ∧ (sign = '+' ∨ sign = '-') ∧
      ds.all Text.isAsciiDigit ∧ ds ≠ [] := by
  unfold Binary64.exponentText
  refine ⟨_, _, rfl, ?_, ?_, ?_⟩
  · split
    · exact .inr rfl
    · exact .inl rfl
  · split
    · exact Text.all_isAsciiDigit_toDigits _
    · exact Text.all_isAsciiDigit_toDigits _
  · split
    · exact List.cons_ne_nil _ _
    · exact Nat.toDigits_ne_nil

theorem layout_scientific (hpoint : point ≤ -4 ∨ 16 < point) :
    Binary64.layout digits point = digits.take 1 ++
      ((if (digits.drop 1).isEmpty then [] else '.' :: digits.drop 1) ++
        'e' :: Binary64.exponentText (point - 1)) := by
  unfold Binary64.layout
  rw [if_pos (by simpa using hpoint), List.append_assoc]

theorem layout_fraction (hpoint : ¬(point ≤ -4 ∨ 16 < point)) (hzero : point ≤ 0) :
    Binary64.layout digits point =
      '0' :: '.' :: (List.replicate point.natAbs '0' ++ digits) := by
  unfold Binary64.layout
  rw [if_neg (by simpa using hpoint), if_pos hzero]

theorem layout_plain {places : Nat} (hpoint : ¬((places : Int) ≤ -4 ∨ 16 < (places : Int)))
    (hzero : ¬(places : Int) ≤ 0) : Binary64.layout digits places = digits.take places ++
      (List.replicate (places - (digits.take places).length) '0' ++
        '.' :: (if (digits.drop places).isEmpty then ['0'] else digits.drop places)) := by
  unfold Binary64.layout
  rw [if_neg (by simpa using hpoint), if_neg hzero, ← List.append_assoc]
  rfl

/-- Far from the point there is an exponent after the first digit and the others. -/
theorem shows_scientific (negative : Bool) (hd : Text.IsNumeral digits)
    (hpoint : point ≤ -4 ∨ 16 < point) : ∃ n : Numeral, n.negative = negative ∧
      n.Shows digits point := by
  obtain ⟨hall, c, ds, rfl, hc⟩ := hd
  rw [List.all_cons, Bool.and_eq_true] at hall
  obtain ⟨sign, es, hexponent, hsign, hes, hne⟩ := exponentText_eq (point - 1)
  have hdrop : (if ds.isEmpty then [] else '.' :: ds).drop 1 = ds := by
    cases ds <;> rfl
  refine ⟨⟨negative, [c], if ds.isEmpty then [] else '.' :: ds,
    'e' :: Binary64.exponentText (point - 1)⟩, rfl, ⟨?_, ?_, ?_⟩, ?_, ?_, ?_⟩
  · exact .inr ⟨by simpa using hall.1, c, [], rfl, hc⟩
  · cases ds with
    | nil => exact .inl rfl
    | cons d ds => exact .inr ⟨d :: ds, rfl, hall.2, List.cons_ne_nil _ _⟩
  · exact .inr ⟨sign, es, by rw [hexponent], hsign, hes, hne⟩
  · rw [layout_scientific hpoint]
    rfl
  · exact Bool.and_false _
  · rw [hdrop, exponentValue_text, List.singleton_append, List.length_cons]
    congr 2
    push_cast
    ring

/-- Before the first digit there are zeros. -/
theorem shows_fraction (negative : Bool) (hd : Text.IsNumeral digits)
    (hpoint : ¬(point ≤ -4 ∨ 16 < point)) (hzero : point ≤ 0) : ∃ n : Numeral,
      n.negative = negative ∧ n.Shows digits point := by
  obtain ⟨hall, c, ds, hds, hc⟩ := hd
  refine ⟨⟨negative, ['0'], '.' :: (List.replicate point.natAbs '0' ++ digits), []⟩, rfl,
    ⟨.inl rfl, .inr ⟨_, rfl, ?_, ?_⟩, .inl rfl⟩, ?_, rfl, ?_⟩
  · rw [List.all_append, hall, Bool.and_true, List.all_replicate]
    split <;> rfl
  · simp [hds]
  · rw [layout_fraction hpoint hzero, Numeral.text, List.append_nil]
    rfl
  · have hvalue := Text.asciiValue_zeros_append (1 + point.natAbs) digits
    rw [Nat.add_comm, List.replicate_succ, List.cons_append] at hvalue
    simp only [List.drop_one, List.tail_cons, List.singleton_append, hvalue, exponentValue,
      List.length_append, List.length_replicate]
    congr 2
    omega

/-- Digits with the point among or after them keep their value if zeros fill the places up to it and
the place after it. -/
theorem asciiValue_around (digits : List Char) (places : Nat) :
    (Text.asciiValue digits * 10 ^ ((places : Int) - digits.length) : ℚ) =
      Text.asciiValue (digits.take places ++ List.replicate (places - (digits.take places).length) '0'
        ++ (if (digits.drop places).isEmpty then ['0'] else digits.drop places)) *
        10 ^ ((0 : Int) -
          (if (digits.drop places).isEmpty then ['0'] else digits.drop places).length) := by
  by_cases hlong : places < digits.length
  · -- digits on both sides of the point
    have hne : (digits.drop places).isEmpty = false := by simpa using hlong
    rw [hne, List.length_take_of_le hlong.le, Nat.sub_self]
    simp only [Bool.false_eq_true, ↓reduceIte, List.replicate_zero, List.append_nil,
      List.take_append_drop, List.length_drop]
    congr 2
    omega
  · -- zeros up to the point and one after it
    have hle : digits.length ≤ places := by omega
    have hempty : (digits.drop places).isEmpty := by simpa using hle
    rw [hempty, List.take_of_length_le hle]
    have hzeros : digits ++ List.replicate (places - digits.length) '0' ++ ['0'] =
        digits ++ List.replicate (places - digits.length + 1) '0' := by
      rw [List.replicate_succ', List.append_assoc]
    simp only [↓reduceIte, hzeros, Text.asciiValue_append_zeros, List.length_singleton]
    rw [← Nat.cast_sub hle, zpow_natCast]
    push_cast
    rw [pow_succ, mul_assoc, mul_assoc, show (10 : ℚ) * 10 ^ (-1 : Int) = 1 by norm_num, mul_one]

/-- Among the digits or after them the point has a digit on each side. -/
theorem shows_plain (negative : Bool) (hd : Text.IsNumeral digits)
    (hpoint : ¬(point ≤ -4 ∨ 16 < point)) (hzero : ¬ point ≤ 0) : ∃ n : Numeral,
      n.negative = negative ∧ n.Shows digits point := by
  obtain ⟨hall, c, ds, hds, hc⟩ := hd
  obtain ⟨places, rfl⟩ := Int.eq_ofNat_of_zero_le (Int.le_of_not_le hzero)
  have hplaces : 0 < places := by omega
  have htake : (digits.take places).all Text.isAsciiDigit ∧
      (digits.drop places).all Text.isAsciiDigit := by
    rw [← List.take_append_drop places digits, List.all_append, Bool.and_eq_true] at hall
    exact hall
  refine ⟨⟨negative, digits.take places ++ List.replicate (places - (digits.take places).length) '0',
    '.' :: (if (digits.drop places).isEmpty then ['0'] else digits.drop places), []⟩, rfl,
    ⟨.inr ⟨?_, ?_⟩, .inr ⟨_, rfl, ?_, ?_⟩, .inl rfl⟩, ?_, rfl, ?_⟩
  · rw [List.all_append, htake.1, Bool.true_and, List.all_replicate]
    split <;> rfl
  · rw [hds, List.take_cons hplaces]
    exact ⟨c, _, rfl, hc⟩
  · split
    · rfl
    · exact htake.2
  · split
    · exact List.cons_ne_nil _ _
    · rename_i hne
      simpa using hne
  · rw [layout_plain hpoint hzero, Numeral.text, List.append_nil, List.append_assoc]
  · simp only [List.drop_one, List.tail_cons, exponentValue]
    exact asciiValue_around digits places

theorem exists_shows (negative : Bool) (hd : Text.IsNumeral digits) (point : Int) :
    ∃ n : Numeral, n.negative = negative ∧ n.Shows digits point := by
  by_cases hpoint : point ≤ -4 ∨ 16 < point
  · exact shows_scientific negative hd hpoint
  · by_cases hzero : point ≤ 0
    · exact shows_fraction negative hd hpoint hzero
    · exact shows_plain negative hd hpoint hzero

end Shows

/-- A finite double is read back as itself. -/
theorem spells_floatText {x : Binary64} (hx : x.isProper) :
    Spells (floatText x).toList (.float x) := by
  suffices hparts : ∃ n : Numeral, n.IsWritten ∧ (floatText x).toList = n.text ∧
      (n.fraction.isEmpty && n.exponent.isEmpty) = false ∧
      Binary64.ofDecimal n.negative (Text.asciiValue (n.whole ++ n.fraction.drop 1))
        (exponentValue n.exponent - (n.fraction.drop 1).length) = x by
    obtain ⟨n, hwritten, htext, hbroken, hvalue⟩ := hparts
    refine ⟨n, hwritten, htext, fun left position hl => ?_⟩
    obtain ⟨position', hread⟩ := hwritten.readNumber hl position
    refine ⟨position', ?_⟩
    rw [hread, hbroken, hvalue]
    rfl
  cases x with
  | nan => cases hx
  | infinity negative => cases hx
  | finite negative s e =>
    have htext : ∀ n : Numeral, n.negative = negative →
        n.text = n.sign ++ Binary64.layout (Binary64.digitsOf s e).1 (Binary64.digitsOf s e).2 →
        (floatText (.finite negative s e)).toList = n.text := by
      intro n hn hlayout
      rw [hlayout, Numeral.sign, hn]
      change ((if negative then "-" else "") ++ Binary64.magnitudeText s e).toList = _
      rw [String.toList_append, Binary64.magnitudeText, String.toList_ofList]
      cases negative <;> rfl
    obtain rfl | hs := Nat.eq_zero_or_pos s
    · have he : e = Binary64.minExponent ∧ Binary64.minExponent ≤ e ∧ e ≤ Binary64.maxExponent := by
        simpa [Binary64.isProper, and_assoc] using hx
      refine ⟨⟨negative, ['0'], ['.', '0'], []⟩,
        ⟨.inl rfl, .inr ⟨['0'], rfl, rfl, List.cons_ne_nil _ _⟩, .inl rfl⟩,
        htext _ rfl rfl, rfl, ?_⟩
      rw [he.1]
      rfl
    · have htells := Binary64.tells_digitsOf (s := s) (e := e) hx hs
      obtain ⟨n, hn, hshows⟩ := exists_shows negative htells.numeral (Binary64.digitsOf s e).2
      refine ⟨n, hshows.written, htext n hn hshows.text, hshows.broken, ?_⟩
      rw [hn]
      exact htells.found.ofDecimal hshows.value

end EditorBlocks.Json
