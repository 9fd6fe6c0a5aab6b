import EditorBlocks.Markup.Scope
import Mathlib.Data.List.DropRight
/-! Spacing: normalized text is made of the words of a text with single spaces between them, less
the blanks of any script at both ends. -/

namespace EditorBlocks

namespace Text
variable {c : Char} {cs ds : List Char}

/-- The pieces of a text between runs of spacing. -/
def words (cs : List Char) : List (List Char) := (cs.splitOnP isSpacing).filter fun w => !w.isEmpty

/-- The words with single spaces between them. -/
def spacedChars (cs : List Char) : List Char := [' '].intercalate (words cs)

def spaced (s : String) : String := String.ofList (spacedChars s.toList)

/-! ### Words one character at a time -/

/-- The first piece is empty if there is nothing before the first spacing. -/
theorem exists_pieces (cs : List Char) : ∃ first rest, cs.splitOnP isSpacing = first :: rest ∧
    (first = [] ↔ cs = [] ∨ cs.head?.any isSpacing) := by
  cases cs with
  | nil => exact ⟨[], [], List.splitOnP_nil, by simp⟩
  | cons c cs =>
    rw [List.splitOnP_cons_eq_if_modifyHead]
    by_cases hc : isSpacing c
    · exact ⟨[], _, by rw [if_pos hc], by simp [hc]⟩
    · obtain ⟨first, rest, hpieces⟩ := List.exists_cons_of_ne_nil (List.splitOnP_ne_nil isSpacing cs)
      exact ⟨c :: first, rest, by rw [if_neg hc, hpieces]; rfl, by simp [hc]⟩

theorem words_cons_spacing (hc : isSpacing c) (cs : List Char) : words (c :: cs) = words cs := by
  rw [words, List.splitOnP_cons_eq_if_modifyHead, if_pos hc]
  rfl

theorem spacedChars_cons_spacing (hc : isSpacing c) (cs : List Char) :
    spacedChars (c :: cs) = spacedChars cs := by
  rw [spacedChars, words_cons_spacing hc, spacedChars]

/-- A character that is no spacing is put before the words, with a space if a word ends with it and
another one follows. -/
theorem spacedChars_cons (hc : ¬isSpacing c) (cs : List Char) : words (c :: cs) ≠ [] ∧
    spacedChars (c :: cs) = c :: ((if cs.head?.any isSpacing ∧ words cs ≠ [] then [' '] else []) ++
      spacedChars cs) := by
  obtain ⟨first, rest, hpieces, hfirst⟩ := exists_pieces cs
  have hwords : words (c :: cs) = (c :: first) :: rest.filter fun w => !w.isEmpty := by
    rw [words, List.splitOnP_cons_eq_if_modifyHead, if_neg hc, hpieces]
    rfl
  refine ⟨by simp [hwords], ?_⟩
  by_cases hempty : first = []
  · have hrest : words cs = rest.filter fun w => !w.isEmpty := by
      rw [words, hpieces, hempty]
      rfl
    rw [spacedChars, spacedChars, hwords, hrest, hempty]
    cases hothers : rest.filter fun w => !w.isEmpty with
    | nil => simp
    | cons w ws =>
      have hspacing : cs.head?.any isSpacing := by
        rcases hfirst.mp hempty with rfl | h
        · rw [List.splitOnP_nil] at hpieces
          cases hpieces
          cases hothers
        · exact h
      rw [if_pos ⟨hspacing, by simp⟩, List.intercalate_cons_cons]
      rfl
  · have hrest : words cs = first :: rest.filter fun w => !w.isEmpty := by
      rw [words, hpieces, List.filter_cons_of_pos (by simpa using hempty)]
    have hnone : ¬(cs.head?.any isSpacing ∧ words cs ≠ []) := fun h =>
      hempty (hfirst.mpr (.inr h.1))
    rw [if_neg hnone, spacedChars, spacedChars, hwords, hrest]
    cases rest.filter fun w => !w.isEmpty with
    | nil => simp
    | cons w ws => rw [List.intercalate_cons_cons, List.intercalate_cons_cons]; rfl

/-! ### Collapsing and trimming -/

theorem collapseFrom_false (cs : List Char) : collapseFrom false cs =
    (if cs.head?.any isSpacing then [' '] else []) ++ collapseFrom true cs := by
  cases cs with
  | nil => rfl
  | cons c cs =>
    by_cases hc : isSpacing c <;> simp [collapseFrom, hc]

/-- Inside a run, collapsing gives the words with single spaces between them, and perhaps a space
after the last one. -/
theorem collapseFrom_true (cs : List Char) : ∃ tail, (tail = [] ∨ tail = [' '] ∧ words cs ≠ []) ∧
    collapseFrom true cs = spacedChars cs ++ tail := by
  induction cs with
  | nil => exact ⟨[], .inl rfl, by simp [collapseFrom, spacedChars, words]⟩
  | cons c cs ih =>
    obtain ⟨tail, htail, hcollapse⟩ := ih
    by_cases hc : isSpacing c
    · refine ⟨tail, ?_, ?_⟩
      · rwa [words_cons_spacing hc]
      · rw [collapseFrom, if_pos hc, if_pos rfl, hcollapse, spacedChars_cons_spacing hc]
    · obtain ⟨hne, hspaced⟩ := spacedChars_cons hc cs
      rw [collapseFrom, if_neg hc, collapseFrom_false, hcollapse, hspaced]
      by_cases hwords : words cs = []
      · -- the words end here; what follows is a run of spacing, or nothing
        have htail : tail = [] := by
          rcases htail with htail | ⟨-, h⟩
          · exact htail
          · exact absurd hwords h
        have hnone : spacedChars cs = [] := by rw [spacedChars, hwords]; rfl
        refine ⟨if cs.head?.any isSpacing then [' '] else [], ?_, by simp [htail, hnone, hwords]⟩
        by_cases hspacing : cs.head?.any isSpacing
        · exact .inr ⟨if_pos hspacing, hne⟩
        · exact .inl (if_neg hspacing)
      · refine ⟨tail, ?_, by simp [hwords]⟩
        rcases htail with htail | ⟨htail, -⟩
        · exact .inl htail
        · exact .inr ⟨htail, hne⟩

theorem trimList_eq (cs : List Char) :
    trimList cs = (cs.dropWhile isBlank).rdropWhile isBlank := rfl

theorem trimList_append_space (cs : List Char) : trimList (cs ++ [' ']) = trimList cs := by
  rw [trimList_eq, trimList_eq, List.dropWhile_append]
  by_cases hblank : (cs.dropWhile isBlank).isEmpty
  · rw [if_pos hblank, List.isEmpty_iff.mp hblank]
    rfl
  · rw [if_neg hblank, List.rdropWhile_concat_pos isBlank _ _ rfl]

theorem trimList_collapseFrom (cs : List Char) :
    trimList (collapseFrom false cs) = trimList (spacedChars cs) := by
  obtain ⟨tail, htail, hcollapse⟩ := collapseFrom_true cs
  have hend : trimList (spacedChars cs ++ tail) = trimList (spacedChars cs) := by
    rcases htail with rfl | ⟨rfl, -⟩
    · rw [List.append_nil]
    · exact trimList_append_space _
  rw [collapseFrom_false, hcollapse]
  split
  · exact hend
  · exact hend

theorem normalizeSpacing_eq (s : String) : normalizeSpacing s = trim (spaced s) := by
  rw [normalizeSpacing, trim, spaced, String.toList_ofList, trimList_collapseFrom]

/-- Text is left alone by trimming if there is no blank at either end. -/
theorem trimList_eq_self_iff :
    trimList cs = cs ↔ ¬cs.head?.any isBlank ∧ ¬cs.getLast?.any isBlank := by
  have hhead : cs.dropWhile isBlank = cs ↔ ¬cs.head?.any isBlank := by
    cases cs with
    | nil => simp
    | cons c cs => simp [List.dropWhile_eq_self_iff]
  have hlast : cs.rdropWhile isBlank = cs ↔ ¬cs.getLast?.any isBlank := by
    rw [List.rdropWhile_eq_self_iff]
    cases cs with
    | nil => simp
    | cons c cs => simp [List.getLast?_eq_some_getLast]
  rw [← hhead, ← hlast, trimList_eq]
  constructor
  · intro h
    have hlength := congrArg List.length h
    have hfirst : cs.dropWhile isBlank = cs := by
      refine (List.dropWhile_suffix isBlank).eq_of_length_le ?_
      have hle := (List.rdropWhile_prefix isBlank (cs.dropWhile isBlank)).length_le
      omega
    exact ⟨hfirst, by rwa [hfirst] at h⟩
  · rintro ⟨hfirst, hlast⟩
    rw [hfirst, hlast]

/-! ### What is not blank -/

/-- What is left of a text when all blanks are deleted. -/
def solid (cs : List Char) : List Char := cs.filter fun c => !isBlank c

theorem solid_append (cs ds : List Char) : solid (cs ++ ds) = solid cs ++ solid ds :=
  List.filter_append ..

theorem solid_dropWhile (cs : List Char) : solid (cs.dropWhile isBlank) = solid cs := by
  induction cs with
  | nil => rfl
  | cons c cs ih =>
    by_cases hc : isBlank c
    · rw [List.dropWhile_cons_of_pos hc, ih, solid, solid, List.filter_cons_of_neg (by simp [hc])]
    · rw [List.dropWhile_cons_of_neg hc]

theorem solid_trimList (cs : List Char) : solid (trimList cs) = solid cs := by
  have hreverse : ∀ cs : List Char, solid cs.reverse = (solid cs).reverse :=
    fun cs => List.filter_reverse
  rw [trimList, hreverse, solid_dropWhile, hreverse, List.reverse_reverse, solid_dropWhile]

theorem solid_trim (s : String) : solid (trim s).toList = solid s.toList := by
  rw [trim, String.toList_ofList, solid_trimList]

theorem solid_collapseFrom (inRun : Bool) (cs : List Char) :
    solid (collapseFrom inRun cs) = solid cs := by
  induction cs generalizing inRun with
  | nil => rfl
  | cons c cs ih =>
    by_cases hc : isSpacing c
    · have hblank : isBlank c := isBlank_of_isSpacing hc
      have hdrop : solid (c :: cs) = solid cs := by simp [solid, hblank]
      rw [collapseFrom, if_pos hc, hdrop]
      cases inRun with
      | true => exact ih true
      | false => exact ih true
    · rw [collapseFrom, if_neg hc, solid, List.filter_cons, solid, List.filter_cons]
      have hrest := ih false
      rw [solid, solid] at hrest
      rw [hrest]

theorem solid_normalizeSpacing (s : String) : solid (normalizeSpacing s).toList = solid s.toList := by
  rw [normalizeSpacing, String.toList_ofList, solid_trimList, solid_collapseFrom]

end Text

namespace Scope

/-- The text of a scope is made of the words of its raw text with single spaces between them, less the
blanks at both ends: nothing is taken away exactly if the words begin and end with no blank of their
own. All that is not blank is kept. -/
theorem text_spacing (s : Scope) :
    s.text? = s.rawText?.map (fun raw => Text.trim (Text.spaced raw)) ∧
    ∀ raw, s.rawText? = some raw →
      (s.text? = some (Text.spaced raw) ↔
        ¬(Text.spacedChars raw.toList).head?.any Text.isBlank ∧
          ¬(Text.spacedChars raw.toList).getLast?.any Text.isBlank) ∧
      ∀ text, s.text? = some text → Text.solid text.toList = Text.solid raw.toList := by
  have htext : s.text? = s.rawText?.map fun raw => Text.trim (Text.spaced raw) :=
    congrArg (s.rawText?.map ·) (funext Text.normalizeSpacing_eq)
  refine ⟨htext, fun raw hraw => ⟨?_, fun text h => ?_⟩⟩
  · rw [htext, hraw, Option.map_some, Option.some_inj, Text.trim, Text.spaced, String.toList_ofList,
      String.ofList_inj, Text.trimList_eq_self_iff]
  · rw [text?, hraw, Option.map_some, Option.some_inj] at h
    rw [← h, Text.solid_normalizeSpacing]

/-- A caption of several lines, with a no-break space between two words. -/
def caption : Scope := .ofFragment "<p>\n  A\n  long\xa0caption </p>"

theorem caption_text : caption.rawText? = some "\n  A\n  long\xa0caption " ∧
    caption.text? = some "A long\xa0caption" := by
  have hraw : caption.rawText? = some "\n  A\n  long\xa0caption " := by decide +kernel
  have hspaced : Text.spaced "\n  A\n  long\xa0caption " = "A long\xa0caption" := by
    decide +kernel
  have htext := (((text_spacing caption).2 _ hraw).1).mpr (by decide +kernel)
  rw [hspaced] at htext
  exact ⟨hraw, htext⟩

/-- A no-break space at either end of the words goes with the blanks. -/
theorem padded_text : (ofFragment "\xa0a\xa0").rawText? = some "\xa0a\xa0" ∧
    Text.spaced "\xa0a\xa0" = "\xa0a\xa0" ∧ (ofFragment "\xa0a\xa0").text? = some "a" := by
  decide +kernel

end Scope
end EditorBlocks
