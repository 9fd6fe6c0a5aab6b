import EditorBlocks.Proofs.Text.Spacing
import Mathlib.Data.List.Chain
/-! Normal text: its spacing is single spaces, and no blank of any script stands at either end.
Normalizing spacing gives normal text and leaves normal text alone. -/

namespace EditorBlocks.Text
variable {c : Char} {cs ds : List Char}

/-- Text whose spacing is single spaces. -/
structure IsCollapsed (cs : List Char) : Prop where
  plain : ∀ c ∈ cs, isSpacing c → c = ' '
  single : cs.IsChain fun c d => ¬(c = ' ' ∧ d = ' ')

/-- Text whose spacing is single spaces, none of them at an end and no other blank there either. -/
structure IsNormal (cs : List Char) : Prop extends IsCollapsed cs where
  first : ¬cs.head?.any isBlank
  last : ¬cs.getLast?.any isBlank

/-! ### Collapsing -/

theorem isCollapsed_nil : IsCollapsed [] := ⟨List.forall_mem_nil _, .nil⟩

theorem isCollapsed_cons : IsCollapsed (c :: cs) ↔
    (isSpacing c → c = ' ') ∧ (c = ' ' → cs.head? ≠ some ' ') ∧ IsCollapsed cs := by
  constructor
  · rintro ⟨hplain, hsingle⟩
    obtain ⟨hc, hplain⟩ := List.forall_mem_cons.mp hplain
    obtain ⟨hnext, hsingle⟩ := List.isChain_cons.mp hsingle
    exact ⟨hc, fun hspace hhead => hnext ' ' hhead ⟨hspace, rfl⟩, hplain, hsingle⟩
  · rintro ⟨hc, hnext, hplain, hsingle⟩
    refine ⟨List.forall_mem_cons.mpr ⟨hc, hplain⟩, List.isChain_cons.mpr ⟨?_, hsingle⟩⟩
    rintro d hd ⟨hspace, rfl⟩
    exact hnext hspace hd

/-- Cutting a part out of collapsed text brings no two spaces together. -/
theorem IsCollapsed.of_isInfix (h : IsCollapsed cs) (hd : ds <:+: cs) : IsCollapsed ds :=
  ⟨fun c hc => h.plain c (hd.subset hc), h.single.infix hd⟩

/-- Inside a run nothing more is written for it. -/
theorem head?_collapseFrom_true (cs : List Char) : (collapseFrom true cs).head? ≠ some ' ' := by
  induction cs with
  | nil => rintro ⟨⟩
  | cons c cs ih =>
    rw [collapseFrom]
    split
    · exact ih
    · rename_i hc
      intro h
      cases Option.some.inj h
      exact hc rfl

theorem isCollapsed_collapseFrom (inRun : Bool) (cs : List Char) :
    IsCollapsed (collapseFrom inRun cs) := by
  induction cs generalizing inRun with
  | nil => exact isCollapsed_nil
  | cons c cs ih =>
    rw [collapseFrom]
    split
    · split
      · exact ih true
      · exact isCollapsed_cons.mpr
          ⟨fun _ => rfl, fun _ => head?_collapseFrom_true cs, ih true⟩
    · rename_i hc
      refine isCollapsed_cons.mpr ⟨fun h => absurd h hc, ?_, ih false⟩
      rintro rfl
      exact absurd rfl hc

/-- Collapsed text is not changed by collapsing, unless it goes on with a run. -/
theorem collapseFrom_of_isCollapsed (h : IsCollapsed cs) {inRun : Bool}
    (hrun : inRun → cs.head? ≠ some ' ') : collapseFrom inRun cs = cs := by
  induction cs generalizing inRun with
  | nil => rfl
  | cons c cs ih =>
    obtain ⟨hplain, hnext, hcs⟩ := isCollapsed_cons.mp h
    rw [collapseFrom]
    by_cases hc : isSpacing c
    · obtain rfl := hplain hc
      cases inRun with
      | true => exact absurd rfl (hrun rfl)
      | false =>
        rw [if_pos hc, if_neg Bool.false_ne_true, ih hcs fun _ => hnext rfl]
    · rw [if_neg hc, ih hcs fun h => absurd h Bool.false_ne_true]

/-! ### Trimming -/

theorem trimList_isInfix (cs : List Char) : trimList cs <:+: cs :=
  (List.rdropWhile_prefix isBlank _).isInfix.trans (List.dropWhile_suffix isBlank).isInfix

theorem head?_trimList (cs : List Char) : ¬(trimList cs).head?.any isBlank := by
  obtain ⟨tail, htail⟩ := List.rdropWhile_prefix isBlank (cs.dropWhile isBlank)
  rw [trimList_eq]
  cases h : (cs.dropWhile isBlank).rdropWhile isBlank with
  | nil => exact Bool.false_ne_true
  | cons c rest =>
    have hhead := List.head?_dropWhile_not isBlank cs
    rw [← htail, h, List.cons_append, List.head?_cons] at hhead
    exact Bool.eq_false_iff.mp hhead

theorem getLast?_trimList (cs : List Char) : ¬(trimList cs).getLast?.any isBlank := by
  rw [trimList_eq]
  by_cases h : (cs.dropWhile isBlank).rdropWhile isBlank = []
  · rw [h]
    exact Bool.false_ne_true
  · rw [List.getLast?_eq_some_getLast h]
    exact List.rdropWhile_last_not isBlank _ h

theorem IsCollapsed.trimList (h : IsCollapsed cs) : IsNormal (trimList cs) where
  toIsCollapsed := h.of_isInfix (trimList_isInfix cs)
  first := head?_trimList cs
  last := getLast?_trimList cs

/-! ### Normalizing -/

theorem isNormal_normalizeSpacing (s : String) : IsNormal (normalizeSpacing s).toList := by
  rw [normalizeSpacing, String.toList_ofList]
  exact (isCollapsed_collapseFrom false s.toList).trimList

theorem normalizeSpacing_of_isNormal {s : String} (h : IsNormal s.toList) :
    normalizeSpacing s = s := by
  have hcollapse : collapseFrom false s.toList = s.toList :=
    collapseFrom_of_isCollapsed h.toIsCollapsed fun h => absurd h Bool.false_ne_true
  rw [normalizeSpacing, hcollapse, trimList_eq_self_iff.mpr ⟨h.first, h.last⟩, String.ofList_toList]

/-- Normalizing writes one space for each run of spacing between words and trims both ends. What it
gives is normal; the texts that it does not change, its own results among them, are the normal ones;
and it changes nothing but blanks. -/
theorem normalizeSpacing_normal (s : String) :
    normalizeSpacing s = trim (spaced s) ∧
    IsNormal (normalizeSpacing s).toList ∧
    normalizeSpacing (normalizeSpacing s) = normalizeSpacing s ∧
    (normalizeSpacing s = s ↔ IsNormal s.toList) ∧
    solid (normalizeSpacing s).toList = solid s.toList := by
  have hnormal := isNormal_normalizeSpacing s
  refine ⟨normalizeSpacing_eq s, hnormal, normalizeSpacing_of_isNormal hnormal,
    ⟨fun h => ?_, ?_⟩, ?_⟩
  · rwa [h] at hnormal
  · exact normalizeSpacing_of_isNormal
  · exact solid_normalizeSpacing s

end EditorBlocks.Text
