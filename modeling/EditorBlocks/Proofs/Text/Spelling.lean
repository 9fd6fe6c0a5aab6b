import EditorBlocks.Text.Digit
import Mathlib.Data.List.DropRight
import Mathlib.Data.Nat.Digits.Defs
import Mathlib.Tactic.Ring
/-! Whole numbers as they are spelled: which texts are read as numbers, and which of them as the same
number. -/

namespace EditorBlocks.Text
variable {c : Char} {cs ds : List Char} {s t : String} {v room total n : Nat} {vs ws : List Nat}
  {negative negative' : Bool}

/-- Digits of any scripts, with their values; an underscore may stand between two of them. -/
inductive SpellsDigits : List Char → List Nat → Prop
  | last {c : Char} {v : Nat} (h : digitValue? c = some v) : SpellsDigits [c] [v]
  | next {c : Char} {v : Nat} {cs : List Char} {vs : List Nat} (h : digitValue? c = some v)
    (rest : SpellsDigits cs vs) : SpellsDigits (c :: cs) (v :: vs)
  | divided {c : Char} {v : Nat} {cs : List Char} {vs : List Nat} (h : digitValue? c = some v)
    (rest : SpellsDigits cs vs) : SpellsDigits (c :: '_' :: cs) (v :: vs)

/-- Digits with a sign; the plus may be left out. -/
inductive SpellsSigned : List Char → Bool → List Nat → Prop
  | bare {cs : List Char} {vs : List Nat} (h : SpellsDigits cs vs) : SpellsSigned cs false vs
  | plus {cs : List Char} {vs : List Nat} (h : SpellsDigits cs vs) :
    SpellsSigned ('+' :: cs) false vs
  | minus {cs : List Char} {vs : List Nat} (h : SpellsDigits cs vs) :
    SpellsSigned ('-' :: cs) true vs

/-- Text that spells a whole number: its sign and digits, with blanks around them. -/
def Spells (s : String) (negative : Bool) (vs : List Nat) : Prop :=
  ∃ before cs after, s.toList = before ++ (cs ++ after) ∧ (∀ c ∈ before, isNumberBlank c) ∧
    (∀ c ∈ after, isNumberBlank c) ∧ SpellsSigned cs negative vs

/-- The number that a sign and digits make. -/
def signedNumber (negative : Bool) (vs : List Nat) : Int :=
  if negative then -(Nat.ofDigits 10 vs.reverse : Nat) else (Nat.ofDigits 10 vs.reverse : Nat)

/-! ### Characters of a number -/

theorem exists_of_digitValue (h : digitValue? c = some v) :
    v < 10 ∧ ∃ first ∈ digitZeros, c = Char.ofNat (first + v) := by
  obtain ⟨first, hfirst, rfl⟩ := Option.map_eq_some_iff.mp h
  have hrange := List.find?_some hfirst
  simp only [Bool.and_eq_true, decide_eq_true_eq] at hrange
  refine ⟨by omega, first, List.mem_of_find?_eq_some hfirst, ?_⟩
  rw [Nat.add_sub_cancel' hrange.1, Char.ofNat_toNat]

theorem isNumberBlank_of_digitValue (h : digitValue? c = some v) : isNumberBlank c = false := by
  have hdigits : ∀ first ∈ digitZeros, ∀ v < 10, isNumberBlank (Char.ofNat (first + v)) = false := by
    decide +kernel
  obtain ⟨hv, first, hfirst, rfl⟩ := exists_of_digitValue h
  exact hdigits first hfirst v hv

theorem SpellsDigits.exists_first (h : SpellsDigits cs vs) :
    ∃ c rest v, cs = c :: rest ∧ digitValue? c = some v := by
  cases h with
  | last hv => exact ⟨_, _, _, rfl, hv⟩
  | next hv => exact ⟨_, _, _, rfl, hv⟩
  | divided hv => exact ⟨_, _, _, rfl, hv⟩

theorem SpellsDigits.exists_last (h : SpellsDigits cs vs) :
    ∃ rest c v, cs = rest ++ [c] ∧ digitValue? c = some v := by
  induction h with
  | last hv => exact ⟨[], _, _, rfl, hv⟩
  | next _ _ ih =>
    obtain ⟨rest, d, v, rfl, hv⟩ := ih
    exact ⟨_ :: rest, d, v, rfl, hv⟩
  | divided _ _ ih =>
    obtain ⟨rest, d, v, rfl, hv⟩ := ih
    exact ⟨_ :: '_' :: rest, d, v, rfl, hv⟩

theorem SpellsDigits.lt_ten (h : SpellsDigits cs vs) : ∀ v ∈ vs, v < 10 := by
  induction h with
  | last hv => exact List.forall_mem_singleton.mpr (exists_of_digitValue hv).1
  | next hv _ ih => exact List.forall_mem_cons.mpr ⟨(exists_of_digitValue hv).1, ih⟩
  | divided hv _ ih => exact List.forall_mem_cons.mpr ⟨(exists_of_digitValue hv).1, ih⟩

theorem Spells.lt_ten (h : Spells s negative vs) : ∀ v ∈ vs, v < 10 := by
  obtain ⟨-, cs, -, -, -, -, hsigned⟩ := h
  cases hsigned with
  | bare h => exact h.lt_ten
  | plus h => exact h.lt_ten
  | minus h => exact h.lt_ten

/-! ### Digits -/

/-- What comes after a digit goes on with digits, perhaps after an underscore. -/
def GoesOn (cs rest : List Char) : Prop :=
  cs = '_' :: rest ∨ cs = rest ∧ rest ≠ [] ∧ rest.head? ≠ some '_'

theorem readDigits_cons_eq_some_iff : readDigits room total (c :: cs) = some n ↔
    ∃ left v, room = left + 1 ∧ digitValue? c = some v ∧
      (cs = [] ∧ n = total * 10 + v ∨
        ∃ rest, GoesOn cs rest ∧ readDigits left (total * 10 + v) rest = some n) := by
  rw [readDigits]
  cases digitValue? c with
  | none => simp
  | some v =>
    cases room with
    | zero => simp
    | succ left =>
      cases cs with
      | nil => simp [GoesOn, eq_comm]
      | cons d ds =>
        by_cases hd : d = '_'
        · subst hd
          simp [GoesOn]
        · simp [GoesOn, hd]

theorem place_cons (total v : Nat) (vs : List Nat) :
    (total * 10 + v) * 10 ^ vs.length + Nat.ofDigits 10 vs.reverse =
      total * 10 ^ (v :: vs).length + Nat.ofDigits 10 (v :: vs).reverse := by
  rw [Nat.ofDigits_reverse_cons, List.length_cons, pow_succ]
  ring

theorem exists_of_readDigits (h : readDigits room total cs = some n) :
    ∃ vs, SpellsDigits cs vs ∧ vs.length ≤ room ∧
      n = total * 10 ^ vs.length + Nat.ofDigits 10 vs.reverse := by
  induction room generalizing total cs with
  | zero =>
    cases cs with
    | nil => cases h
    | cons c cs =>
      obtain ⟨_, _, hroom, -⟩ := readDigits_cons_eq_some_iff.mp h
      cases hroom
  | succ room ih =>
    cases cs with
    | nil => cases h
    | cons c cs =>
      obtain ⟨left, v, hroom, hv, ⟨rfl, rfl⟩ | ⟨rest, hrest, h⟩⟩ := readDigits_cons_eq_some_iff.mp h
      · exact ⟨[v], .last hv, Nat.succ_le_succ room.zero_le, by simp⟩
      · cases hroom
        obtain ⟨vs, hvs, hlength, rfl⟩ := ih h
        refine ⟨v :: vs, ?_, Nat.succ_le_succ hlength, place_cons total v vs⟩
        obtain rfl | ⟨rfl, -⟩ := hrest
        · exact .divided hv hvs
        · exact .next hv hvs

theorem readDigits_of_spells (h : SpellsDigits cs vs) (hroom : vs.length ≤ room) :
    readDigits room total cs = some (total * 10 ^ vs.length + Nat.ofDigits 10 vs.reverse) := by
  induction h generalizing room total with
  | last hv =>
    obtain ⟨left, rfl⟩ := Nat.exists_eq_add_of_le' hroom
    exact readDigits_cons_eq_some_iff.mpr ⟨left, _, rfl, hv, .inl ⟨rfl, by simp⟩⟩
  | next hv rest ih =>
    obtain ⟨left, rfl⟩ := Nat.exists_eq_add_of_le' (Nat.one_le_of_lt hroom)
    refine readDigits_cons_eq_some_iff.mpr ⟨left, _, rfl, hv, .inr ⟨_, .inr ⟨rfl, ?_⟩, ?_⟩⟩
    · obtain ⟨d, ds, w, rfl, hw⟩ := rest.exists_first
      refine ⟨List.cons_ne_nil d ds, fun hd => ?_⟩
      obtain rfl := Option.some.inj hd
      have hnone : digitValue? '_' = none := by decide
      rw [hnone] at hw
      cases hw
    · rw [← place_cons]
      exact ih (Nat.le_of_succ_le_succ hroom)
  | divided hv rest ih =>
    obtain ⟨left, rfl⟩ := Nat.exists_eq_add_of_le' (Nat.one_le_of_lt hroom)
    refine readDigits_cons_eq_some_iff.mpr ⟨left, _, rfl, hv, .inr ⟨_, .inl rfl, ?_⟩⟩
    rw [← place_cons]
    exact ih (Nat.le_of_succ_le_succ hroom)

/-- What a whole number makes of the digits after its sign. -/
theorem map_readDigits_eq_some_iff {f : Nat → Int} {n : Int} :
    (readDigits room 0 cs).map f = some n ↔
      ∃ vs, SpellsDigits cs vs ∧ vs.length ≤ room ∧ n = f (Nat.ofDigits 10 vs.reverse) := by
  rw [Option.map_eq_some_iff]
  constructor
  · rintro ⟨m, hm, rfl⟩
    obtain ⟨vs, hvs, hroom, rfl⟩ := exists_of_readDigits hm
    exact ⟨vs, hvs, hroom, by rw [Nat.zero_mul, Nat.zero_add]⟩
  · rintro ⟨vs, hvs, hroom, rfl⟩
    refine ⟨_, readDigits_of_spells hvs hroom, ?_⟩
    rw [Nat.zero_mul, Nat.zero_add]

/-! ### Signs and blanks -/

theorem signedDigits?_minus (cs : List Char) :
    signedDigits? ('-' :: cs) = (readDigits digitLimit 0 cs).map fun n : Nat => -(n : Int) := by
  rw [signedDigits?]
  cases readDigits digitLimit 0 cs <;> rfl

/-- Digits are read as they stand: they do not begin with a sign. -/
theorem SpellsDigits.signedDigits?_eq (h : SpellsDigits cs vs) :
    signedDigits? cs = (readDigits digitLimit 0 cs).map Int.ofNat := by
  obtain ⟨c, rest, v, rfl, hv⟩ := h.exists_first
  have hminus : digitValue? '-' = none := by decide
  have hplus : digitValue? '+' = none := by decide
  unfold signedDigits?
  split
  · rename_i heq
    cases heq
    rw [hminus] at hv
    cases hv
  · rename_i heq
    cases heq
    rw [hplus] at hv
    cases hv
  · rfl

theorem signedDigits?_eq_some_iff {n : Int} : signedDigits? cs = some n ↔
    ∃ negative vs, SpellsSigned cs negative vs ∧ vs.length ≤ digitLimit ∧
      n = signedNumber negative vs := by
  constructor
  · intro h
    by_cases hminus : ∃ ds, cs = '-' :: ds
    · obtain ⟨ds, rfl⟩ := hminus
      rw [signedDigits?_minus, map_readDigits_eq_some_iff] at h
      obtain ⟨vs, hvs, hnumber⟩ := h
      exact ⟨true, vs, .minus hvs, hnumber⟩
    · unfold signedDigits? at h
      split at h
      · exact absurd ⟨_, rfl⟩ hminus
      · obtain ⟨vs, hvs, hnumber⟩ := map_readDigits_eq_some_iff.mp h
        exact ⟨false, vs, .plus hvs, hnumber⟩
      · obtain ⟨vs, hvs, hnumber⟩ := map_readDigits_eq_some_iff.mp h
        exact ⟨false, vs, .bare hvs, hnumber⟩
  · rintro ⟨negative, vs, hsigned, hnumber⟩
    cases hsigned with
    | bare hvs =>
      rw [hvs.signedDigits?_eq]
      exact map_readDigits_eq_some_iff.mpr ⟨vs, hvs, hnumber⟩
    | plus hvs => exact map_readDigits_eq_some_iff.mpr ⟨vs, hvs, hnumber⟩
    | minus hvs =>
      rw [signedDigits?_minus]
      exact map_readDigits_eq_some_iff.mpr ⟨vs, hvs, hnumber⟩

/-- No blank stands at either end of a sign and digits. -/
theorem SpellsSigned.bare_ends (h : SpellsSigned cs negative vs) :
    (∃ c rest, cs = c :: rest ∧ isNumberBlank c = false) ∧
      ∃ rest c, cs = rest ++ [c] ∧ isNumberBlank c = false := by
  have hplus : isNumberBlank '+' = false := by decide
  have hminus : isNumberBlank '-' = false := by decide
  cases h with
  | bare hvs =>
    obtain ⟨c, rest, v, hc, hv⟩ := hvs.exists_first
    obtain ⟨rest', d, w, hd, hw⟩ := hvs.exists_last
    exact ⟨⟨c, rest, hc, isNumberBlank_of_digitValue hv⟩,
      rest', d, hd, isNumberBlank_of_digitValue hw⟩
  | plus hvs =>
    obtain ⟨rest, d, w, rfl, hw⟩ := hvs.exists_last
    exact ⟨⟨_, _, rfl, hplus⟩, _ :: rest, d, rfl, isNumberBlank_of_digitValue hw⟩
  | minus hvs =>
    obtain ⟨rest, d, w, rfl, hw⟩ := hvs.exists_last
    exact ⟨⟨_, _, rfl, hminus⟩, _ :: rest, d, rfl, isNumberBlank_of_digitValue hw⟩

theorem trimNumber_eq (cs : List Char) :
    trimNumber cs = (cs.dropWhile isNumberBlank).rdropWhile isNumberBlank := rfl

theorem exists_around_trimNumber (cs : List Char) : ∃ before after,
    cs = before ++ (trimNumber cs ++ after) ∧ (∀ c ∈ before, isNumberBlank c) ∧
      ∀ c ∈ after, isNumberBlank c := by
  refine ⟨cs.takeWhile isNumberBlank, (cs.dropWhile isNumberBlank).rtakeWhile isNumberBlank,
    ?_, fun c hc => List.mem_takeWhile_imp hc, fun c hc => List.mem_rtakeWhile_imp hc⟩
  rw [trimNumber_eq, List.rdropWhile_append_rtakeWhile, List.takeWhile_append_dropWhile]

theorem SpellsSigned.trimNumber_eq {before after : List Char} (h : SpellsSigned cs negative vs)
    (hbefore : ∀ c ∈ before, isNumberBlank c) (hafter : ∀ c ∈ after, isNumberBlank c) :
    trimNumber (before ++ (cs ++ after)) = cs := by
  obtain ⟨⟨c, rest, hfirst, hc⟩, rest', d, hlast, hd⟩ := h.bare_ends
  have hdrop : (cs ++ after).dropWhile isNumberBlank = cs ++ after := by
    rw [hfirst, List.cons_append, List.dropWhile_cons_of_neg (by simp [hc])]
  have hreverse : (after.reverse ++ cs.reverse).dropWhile isNumberBlank = cs.reverse := by
    rw [List.dropWhile_append_of_pos fun c hc => hafter c (List.mem_reverse.mp hc), hlast,
      List.reverse_concat, List.dropWhile_cons_of_neg (by simp [hd])]
  rw [trimNumber, List.dropWhile_append_of_pos hbefore, hdrop, List.reverse_append, hreverse,
    List.reverse_reverse]

/-- A text is read as a number exactly if it spells the number in no more digits than are allowed. -/
theorem parseInt?_eq_some_iff {n : Int} : parseInt? s = some n ↔
    ∃ negative vs, Spells s negative vs ∧ vs.length ≤ digitLimit ∧ n = signedNumber negative vs := by
  rw [parseInt?, signedDigits?_eq_some_iff]
  constructor
  · rintro ⟨negative, vs, hsigned, hnumber⟩
    obtain ⟨before, after, hs, hbefore, hafter⟩ := exists_around_trimNumber s.toList
    exact ⟨negative, vs, ⟨before, _, after, hs, hbefore, hafter, hsigned⟩, hnumber⟩
  · rintro ⟨negative, vs, ⟨before, cs, after, hs, hbefore, hafter, hsigned⟩, hnumber⟩
    rw [hs, hsigned.trimNumber_eq hbefore hafter]
    exact ⟨negative, vs, hsigned, hnumber⟩

/-! ### Spellings of one number -/

/-- Digits without the zeros before them. -/
def significant (vs : List Nat) : List Nat := vs.dropWhile (· == 0)

theorem ofDigits_significant (vs : List Nat) :
    Nat.ofDigits 10 (significant vs).reverse = Nat.ofDigits 10 vs.reverse := by
  induction vs with
  | nil => rfl
  | cons v vs ih =>
    by_cases hv : v = 0
    · rw [hv, Nat.ofDigits_reverse_zero_cons, ← ih]
      rfl
    · rw [significant, List.dropWhile_cons_of_neg (by simpa using hv)]

theorem digits_ofDigits_reverse (h : ∀ v ∈ vs, v < 10) :
    Nat.digits 10 (Nat.ofDigits 10 vs.reverse) = (significant vs).reverse := by
  rw [← ofDigits_significant]
  refine Nat.digits_ofDigits 10 (by decide) _ (fun v hv => ?_) fun hne => ?_
  · exact h v ((List.dropWhile_sublist _).subset (List.mem_reverse.mp hv))
  · have hsome : vs.dropWhile (· == 0) ≠ [] := fun h => hne (congrArg List.reverse h)
    rw [List.getLast_reverse]
    exact ne_of_beq_false (List.head_dropWhile_not (· == 0) hsome)

theorem ofDigits_reverse_eq_iff (hvs : ∀ v ∈ vs, v < 10) (hws : ∀ w ∈ ws, w < 10) :
    Nat.ofDigits 10 vs.reverse = Nat.ofDigits 10 ws.reverse ↔ significant vs = significant ws := by
  constructor
  · intro h
    apply List.reverse_injective
    rw [← digits_ofDigits_reverse hvs, h, digits_ofDigits_reverse hws]
  · intro h
    rw [← ofDigits_significant, h, ofDigits_significant]

/-- Two spellings make the same number exactly if they have the same digits but for zeros before them,
and the same sign unless there are only zeros. -/
theorem signedNumber_eq_iff (hvs : ∀ v ∈ vs, v < 10) (hws : ∀ w ∈ ws, w < 10) :
    signedNumber negative vs = signedNumber negative' ws ↔
      significant vs = significant ws ∧ (negative = negative' ∨ significant vs = []) := by
  have hzero : Nat.ofDigits 10 vs.reverse = 0 ↔ significant vs = [] :=
    ofDigits_reverse_eq_iff hvs (List.forall_mem_nil _)
  rw [← hzero, ← ofDigits_reverse_eq_iff hvs hws, signedNumber, signedNumber]
  cases negative <;> cases negative' <;> simp <;> omega

theorem parseInt?_eq_parseInt?_iff (hs : Spells s negative vs) (ht : Spells t negative' ws)
    (hvs : vs.length ≤ digitLimit) (hws : ws.length ≤ digitLimit) : parseInt? s = parseInt? t ↔
      significant vs = significant ws ∧ (negative = negative' ∨ significant vs = []) := by
  rw [parseInt?_eq_some_iff.mpr ⟨negative, vs, hs, hvs, rfl⟩,
    parseInt?_eq_some_iff.mpr ⟨negative', ws, ht, hws, rfl⟩, Option.some_inj,
    signedNumber_eq_iff hs.lt_ten ht.lt_ten]

end EditorBlocks.Text
