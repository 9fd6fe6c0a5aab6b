import EditorBlocks.Proofs.Json.Strings
import EditorBlocks.Text.Boundary
/-! Single lines: they are what text is put together from, and what it is split into again. -/

namespace EditorBlocks.Text
variable {line rest : List Char}

theorem linesOf_cons {c : Char} (hc : isLineBoundary c = false) (rest : List Char) :
    linesOf (c :: rest) = match linesOf rest with
      | [] => [[c]]
      | line :: lines => (c :: line) :: lines := by
  have hreturn : c ≠ '\r' := by
    rintro rfl
    exact absurd hc (by decide)
  have hother : ∀ others, c = '\r' → rest = '\n' :: others → False := fun _ h _ => hreturn h
  exact (linesOf.eq_3 c rest hother).trans (if_neg (by simp [hc]))

theorem linesOf_feed (rest : List Char) : linesOf ('\n' :: rest) = [] :: linesOf rest := by
  rw [linesOf]
  · rfl
  · rintro _ ⟨⟩

theorem linesOf_of_single (h : ∀ c ∈ line, isLineBoundary c = false) (hne : line ≠ []) :
    linesOf line = [line] := by
  induction line with
  | nil => exact absurd rfl hne
  | cons c rest ih =>
    obtain ⟨hc, hrest⟩ := List.forall_mem_cons.mp h
    rw [linesOf_cons hc]
    cases rest with
    | nil => rfl
    | cons d rest => rw [ih hrest (List.cons_ne_nil d rest)]

theorem linesOf_append_feed (h : ∀ c ∈ line, isLineBoundary c = false) :
    linesOf (line ++ '\n' :: rest) = line :: linesOf rest := by
  induction line with
  | nil => exact linesOf_feed rest
  | cons c line ih =>
    obtain ⟨hc, hline⟩ := List.forall_mem_cons.mp h
    rw [List.cons_append, linesOf_cons hc, ih hline]

/-- Single lines that are not empty are the lines of the text that they are joined to by feeds. -/
theorem linesOf_intercalate {lines : List (List Char)}
    (h : ∀ line ∈ lines, line ≠ [] ∧ ∀ c ∈ line, isLineBoundary c = false) :
    linesOf (['\n'].intercalate lines) = lines := by
  induction lines with
  | nil => rfl
  | cons line rest ih =>
    obtain ⟨⟨hne, hline⟩, hrest⟩ := List.forall_mem_cons.mp h
    cases rest with
    | nil => rw [List.intercalate_singleton, linesOf_of_single hline hne]
    | cons next rest =>
      rw [List.intercalate_cons_cons, List.append_assoc, List.singleton_append,
        linesOf_append_feed hline, ih hrest]

theorem isSingleLine_iff {s : String} :
    isSingleLine s ↔ ∀ c ∈ s.toList, isLineBoundary c = false := by
  simp [isSingleLine]

theorem isSingleLine_append {s t : String} :
    isSingleLine (s ++ t) ↔ isSingleLine s ∧ isSingleLine t := by
  simp [isSingleLine, List.all_append]

theorem splitLines_intercalate {lines : List String}
    (h : ∀ line ∈ lines, line ≠ "" ∧ isSingleLine line) :
    splitLines (String.intercalate "\n" lines) = lines := by
  have hchars : ∀ line ∈ lines.map String.toList,
      line ≠ [] ∧ ∀ c ∈ line, isLineBoundary c = false := by
    refine List.forall_mem_map.mpr fun line hline => ⟨fun hnil => ?_, ?_⟩
    · exact (h line hline).1 (String.toList_eq_nil_iff.mp hnil)
    · exact isSingleLine_iff.mp (h line hline).2
  have hfeed : "\n".toList = ['\n'] := rfl
  rw [splitLines, String.toList_intercalate, hfeed, linesOf_intercalate hchars, List.map_map]
  simp [Function.comp_def]

theorem all_ite {p : Prop} [Decidable p] {q : Char → Bool} {cs ds : List Char} (hcs : p → cs.all q)
    (hds : ¬p → ds.all q) : (if p then cs else ds).all q := by
  split
  · exact hcs ‹p›
  · exact hds ‹¬p›

/-! ### Characters of ASCII -/

/-- Characters of ASCII that are no controls. -/
def isPlainAscii (c : Char) : Bool := 32 ≤ c.toNat && c.toNat < 127

theorem isLineBoundary_of_isPlainAscii {c : Char} (h : isPlainAscii c) :
    isLineBoundary c = false := by
  simp only [isPlainAscii, Bool.and_eq_true, decide_eq_true_eq] at h
  simp only [isLineBoundary, Bool.or_eq_false_iff, Bool.and_eq_false_iff, decide_eq_false_iff_not,
    beq_eq_false_iff_ne]
  omega

theorem all_of_isPlainAscii {cs : List Char} (h : cs.all isPlainAscii) :
    cs.all fun c => !isLineBoundary c := by
  refine List.all_eq_true.mpr fun c hc => ?_
  rw [isLineBoundary_of_isPlainAscii (List.all_eq_true.mp h c hc)]
  rfl

theorem isSingleLine_of_isPlainAscii {s : String} (h : s.toList.all isPlainAscii) :
    isSingleLine s := all_of_isPlainAscii h

theorem isPlainAscii_of_isAsciiDigit {c : Char} (h : isAsciiDigit c) : isPlainAscii c := by
  simp only [isAsciiDigit, Bool.and_eq_true, decide_eq_true_eq, Char.le_def, UInt32.le_iff_toNat_le]
    at h
  simp only [isPlainAscii, Bool.and_eq_true, decide_eq_true_eq]
  have hlow : '0'.val.toNat = 48 := rfl
  have hhigh : '9'.val.toNat = 57 := rfl
  have hc : c.val.toNat = c.toNat := rfl
  omega

theorem all_isPlainAscii_toString (n : Int) : (toString n).toList.all isPlainAscii := by
  have hdigits : (Nat.toDigits 10 n.natAbs).all isPlainAscii := List.all_eq_true.mpr fun c hc =>
    isPlainAscii_of_isAsciiDigit (List.all_eq_true.mp (all_isAsciiDigit_toDigits _) c hc)
  rw [Json.toList_toString, List.all_append, hdigits, Bool.and_true]
  split <;> rfl

theorem all_isPlainAscii_hexDigits (width n : Nat) : (hexDigits width n).all isPlainAscii := by
  have hall : ∀ m < 16, isPlainAscii (hexDigit m) := by decide
  induction width generalizing n with
  | zero => rfl
  | succ width ih => simp [hexDigits, ih, hall (n % 16) (Nat.mod_lt n (by decide))]

end EditorBlocks.Text
