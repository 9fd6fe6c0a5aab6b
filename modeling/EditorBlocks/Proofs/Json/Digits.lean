import EditorBlocks.Data.Json.Reader
/-! Whole numbers with too many digits, and halves of pairs: only a text with a long run of digits,
or with an escape of a half, is refused for one. -/

namespace EditorBlocks.Json

/-- Somewhere there are more digits in a row than a whole number may have. -/
def HasLongNumber (cs : List Char) : Prop :=
  ∃ digits, digits <:+: cs ∧ digits.all Text.isAsciiDigit ∧ Text.digitLimit < digits.length

theorem HasLongNumber.mono {cs ds : List Char} (h : HasLongNumber cs) (hs : cs <:+ ds) :
    HasLongNumber ds := by
  obtain ⟨digits, hinfix, hdigits⟩ := h
  exact ⟨digits, hinfix.trans hs.isInfix, hdigits⟩

/-- A step of reading: what is left is an end of what was there, and a number is refused for its
digits, or an escape for being a half, only if it is there. -/
structure Reads {α : Type} (cs : List Char) (x : Reading (α × Rest)) : Prop where
  left : ∀ a r, x = .ok (a, r) → r.chars <:+ cs
  long : x = .error .tooManyDigits → HasLongNumber cs
  half : x = .error .loneSurrogate → Text.HasHalfEscape cs

section Reads
variable {α β : Type} {cs ds : List Char} {r : Rest} {x : Reading (α × Rest)}
  {f : α × Rest → Reading (β × Rest)}

theorem reads_ok {a : α} (h : r.chars <:+ cs) : Reads cs (.ok (a, r)) where
  left := by
    intro _ _ h'
    cases h'
    exact h
  long := by
    intro h
    cases h
  half := by
    intro h
    cases h

theorem reads_fail {problem : Problem} {position : Nat} :
    Reads cs (fail problem position : Reading (α × Rest)) where
  left := by
    intro _ _ h
    cases h
  long := by
    intro h
    cases h
  half := by
    intro h
    cases h

theorem reads_tooManyDigits (h : HasLongNumber cs) :
    Reads cs (.error .tooManyDigits : Reading (α × Rest)) where
  left := by
    intro _ _ h
    cases h
  long _ := h
  half := by
    intro h
    cases h

theorem reads_loneSurrogate (h : Text.HasHalfEscape cs) :
    Reads cs (.error .loneSurrogate : Reading (α × Rest)) where
  left := by
    intro _ _ h
    cases h
  long := by
    intro h
    cases h
  half _ := h

theorem Reads.mono (h : Reads cs x) (hs : cs <:+ ds) : Reads ds x where
  left a r hx := (h.left a r hx).trans hs
  long hx := (h.long hx).mono hs
  half hx := (h.half hx).mono hs

theorem Reads.bind (h : Reads cs x) (hf : ∀ a r, r.chars <:+ cs → Reads r.chars (f (a, r))) :
    Reads cs (x >>= f) := by
  cases x with
  | error e =>
    refine ⟨?_, fun hx => h.long (congrArg Except.error (Except.error.inj hx)),
      fun hx => h.half (congrArg Except.error (Except.error.inj hx))⟩
    intro _ _ hx
    cases hx
  | ok found =>
    obtain ⟨a, r⟩ := found
    exact (hf a r (h.left a r rfl)).mono (h.left a r rfl)

theorem advance_suffix (r : Rest) (n : Nat) : (r.advance n).chars <:+ r.chars :=
  List.drop_suffix n r.chars

theorem skipSpace_suffix (r : Rest) : r.skipSpace.chars <:+ r.chars := advance_suffix r _

/-- What is left after blanks, a character and blanks. -/
theorem advance_skipSpace_suffix (r : Rest) (n : Nat) :
    (r.advance n).skipSpace.chars <:+ r.chars :=
  (skipSpace_suffix _).trans (advance_suffix r n)

end Reads

theorem reads_readString (start fuel : Nat) (r : Rest) (chunk : List Char) :
    Reads r.chars (readString start fuel r chunk) := by
  induction fuel generalizing r chunk with
  | zero => exact reads_fail
  | succ fuel ih =>
    have hnext : ∀ {cs : List Char} (ds : List Char) (position : Nat) (chunk : List Char), ds <:+ cs →
        Reads cs (readString start fuel ⟨ds, position⟩ chunk) :=
      fun ds position chunk h => (ih ⟨ds, position⟩ chunk).mono h
    obtain ⟨chars, position⟩ := r
    simp only [readString]
    split
    · exact reads_fail
    · exact reads_ok (List.suffix_cons _ _)
    · exact reads_fail
    · rename_i rest
      have hrest : rest <:+ '\\' :: 'u' :: rest := List.suffix_append ['\\', 'u'] rest
      have hafter : ∀ n, (rest.drop 4).drop n <:+ '\\' :: 'u' :: rest := fun n =>
        ((List.drop_suffix n _).trans (List.drop_suffix 4 rest)).trans hrest
      split
      · exact reads_fail
      · split
        · exact reads_fail
        · rename_i code hcode
          have hsingle : ∀ position chunk, Reads ('\\' :: 'u' :: rest)
              (if Text.isSurrogate code then .error .loneSurrogate
                else readString start fuel ⟨rest.drop 4, position⟩ chunk) := by
            intro position chunk
            split
            · rename_i hhalf
              exact reads_loneSurrogate
                ⟨_, List.suffix_rfl, 'u', 4, rest, code, rfl, List.mem_cons_self, hcode, hhalf⟩
            · exact hnext _ _ _ (hafter 0)
          split
          · split
            · exact reads_fail
            · split
              · exact hnext _ _ _ (hafter 6)
              · exact hsingle _ _
          · exact hsingle _ _
    · rename_i c rest _
      have hrest : rest <:+ '\\' :: c :: rest := List.suffix_append ['\\', c] rest
      split
      · exact hnext _ _ _ hrest
      · exact reads_fail
    · split
      · exact reads_fail
      · exact hnext _ _ _ (List.suffix_cons _ _)

theorem isAsciiDigit_of_wholePart (cs : List Char) : (wholePart cs).all Text.isAsciiDigit := by
  unfold wholePart
  split
  · rfl
  · exact List.all_takeWhile

theorem wholePart_isPrefix (cs : List Char) : wholePart cs <+: cs := by
  unfold wholePart
  split
  · exact List.prefix_append ['0'] _
  · exact List.takeWhile_prefix _

theorem reads_readNumber (r : Rest) : Reads r.chars (readNumber r) := by
  unfold readNumber
  extract_lets negative body whole fraction exponent rest
  have hbody : body <:+ r.chars := by
    unfold body
    split
    · exact List.drop_suffix 1 _
    · exact List.suffix_rfl
  have hrest : rest.chars <:+ r.chars := advance_suffix r _
  split
  · exact reads_fail
  · split
    · split
      · rename_i hlength
        exact reads_tooManyDigits ⟨whole, (wholePart_isPrefix body).isInfix.trans hbody.isInfix,
          isAsciiDigit_of_wholePart body, hlength⟩
      · exact reads_ok hrest
    · exact reads_ok hrest

theorem reads_readWord {r : Rest} {found : Value × Rest} (h : readWord? r = some found) :
    Reads r.chars (.ok found) := by
  unfold readWord? at h
  obtain ⟨w, -, hfound⟩ := Option.map_eq_some_iff.mp h
  rw [← hfound]
  exact reads_ok (advance_suffix r _)

mutual
theorem reads_readValue : ∀ (fuel : Nat) (r : Rest), Reads r.chars (readValue fuel r)
  | 0, r => reads_fail
  | fuel + 1, r => by
    rw [readValue]
    split
    · rename_i rest hchars
      have hrest : rest <:+ r.chars := hchars ▸ List.suffix_cons _ _
      refine ((reads_readString _ _ ⟨rest, r.position + 1⟩ []).mono hrest).bind fun s r' h => ?_
      exact reads_ok List.suffix_rfl
    · simp only
      split
      · exact reads_ok ((advance_suffix _ 1).trans (advance_skipSpace_suffix r 1))
      · exact (reads_readItems fuel _ []).mono (advance_skipSpace_suffix r 1)
    · simp only
      split
      · exact reads_ok ((advance_suffix _ 1).trans (advance_skipSpace_suffix r 1))
      · exact (reads_readMembers fuel _ []).mono (advance_skipSpace_suffix r 1)
    · split
      · rename_i h
        exact reads_readWord h
      · exact reads_readNumber r

theorem reads_readItems : ∀ (fuel : Nat) (r : Rest) (items : List Value),
    Reads r.chars (readItems fuel r items)
  | 0, r, items => reads_fail
  | fuel + 1, r, items => by
    rw [readItems]
    refine (reads_readValue fuel r).bind fun item r' _ => ?_
    refine Reads.mono ?_ (skipSpace_suffix r')
    simp only
    split
    · exact reads_ok (advance_suffix _ 1)
    · exact (reads_readItems fuel _ _).mono (advance_skipSpace_suffix _ 1)
    · exact reads_fail

theorem reads_readMembers : ∀ (fuel : Nat) (r : Rest) (members : List (String × Value)),
    Reads r.chars (readMembers fuel r members)
  | 0, r, members => reads_fail
  | fuel + 1, r, members => by
    rw [readMembers]
    split
    · rename_i rest hchars
      have hrest : rest <:+ r.chars := hchars ▸ List.suffix_cons _ _
      refine ((reads_readString _ _ ⟨rest, r.position + 1⟩ []).mono hrest).bind fun name r' _ => ?_
      refine Reads.mono ?_ (skipSpace_suffix r')
      dsimp only
      split
      · exact reads_fail
      · refine (reads_readValue fuel _).mono (advance_skipSpace_suffix _ 1) |>.bind fun v r'' _ => ?_
        refine Reads.mono ?_ (skipSpace_suffix r'')
        dsimp only
        split
        · exact reads_ok (advance_suffix _ 1)
        · exact (reads_readMembers fuel _ _).mono (advance_skipSpace_suffix _ 1)
        · exact reads_fail
    · exact reads_fail
end

end EditorBlocks.Json
