import EditorBlocks.Markup.EndTag
import EditorBlocks.Proofs.Markup.Builder
/-! End tags keep the body, in every mode. -/

open Std.Do
set_option mvcgen.warning false

namespace EditorBlocks.Markup

@[spec] theorem bodyText_bodied (data : List Char) : ⦃Bodied⦄ bodyText data ⦃⇓ _ => Bodied⦄ := by
  mvcgen [bodyText]

@[spec] theorem flushTableText_bodied : ⦃Bodied⦄ flushTableText ⦃⇓ _ => Bodied⦄ := by
  mvcgen [flushTableText]
  all_goals grind

@[spec] theorem endParagraph_bodied : ⦃Bodied⦄ endParagraph ⦃⇓ _ => Bodied⦄ := by
  mvcgen [endParagraph]

@[spec] theorem closeParagraph_bodied : ⦃Bodied⦄ closeParagraph ⦃⇓ _ => Bodied⦄ := by
  mvcgen [closeParagraph]

@[spec] theorem endNearest_bodied (name : String) : ⦃Bodied⦄ endNearest name ⦃⇓ _ => Bodied⦄ := by
  mvcgen [endNearest]

theorem Builder.mem_of_formattingNamed? {b : Builder} {name : String} {i : Nat}
    (h : b.formattingNamed? name = some i) : some i ∈ b.formatting := by
  obtain ⟨entry, hentry, hfilter⟩ := List.exists_of_findSome?_eq_some h
  rw [← (Option.filter_eq_some_iff.mp hfilter).1]
  exact (List.takeWhile_sublist _).mem hentry

/-- What was opened after a formatting element is a later node, as that one is. -/
theorem Builder.HasBody.later_of_inner {b : Builder} {element i : Nat} (h : b.HasBody)
    (hf : some element ∈ b.formatting) (ho : element ∈ b.stack)
    (hi : i ∈ b.stack.takeWhile (· != element)) : 3 < i := by
  have hlater := h.formatting hf
  have hstack := h.stack
  have hsplit : b.stack.takeWhile (· != element) ++ b.stack.dropWhile (· != element) = b.stack :=
    List.takeWhile_append_dropWhile
  rw [← hsplit, List.mem_append] at ho
  rw [← hsplit, List.pairwise_append] at hstack
  rcases ho with ho | ho
  · have hne := List.mem_takeWhile_imp ho
    simp at hne
  · have hle := hstack.2.2 i hi element ho
    omega

@[spec] theorem endFormatting_bodied (name : String) (rounds : Nat) :
    ⦃Bodied⦄ endFormatting name rounds ⦃⇓ _ => Bodied⦄ := by
  induction rounds with
  | zero => mvcgen [endFormatting]
  | succ rounds ih =>
    mvcgen [endFormatting, ih]
    rename_i b h element hnamed hopen _ inner block hfound
    have hinner := List.mem_of_find?_eq_some hfound
    exact h.later_of_inner (Builder.mem_of_formattingNamed? hnamed) (by simpa using hopen)
      (List.mem_reverse.mp hinner)

@[spec] theorem endBlock_bodied (name : String) : ⦃Bodied⦄ endBlock name ⦃⇓ _ => Bodied⦄ := by
  mvcgen [endBlock]
  all_goals grind

@[spec] theorem endForm_bodied : ⦃Bodied⦄ endForm ⦃⇓ _ => Bodied⦄ := by
  mvcgen [endForm]
  all_goals grind

@[spec] theorem endListItem_bodied (name : String) : ⦃Bodied⦄ endListItem name ⦃⇓ _ => Bodied⦄ := by
  mvcgen [endListItem]

@[spec] theorem endHeading_bodied : ⦃Bodied⦄ endHeading ⦃⇓ _ => Bodied⦄ := by
  mvcgen [endHeading]

@[spec] theorem endObject_bodied (name : String) : ⦃Bodied⦄ endObject name ⦃⇓ _ => Bodied⦄ := by
  mvcgen [endObject]

@[spec] theorem endInBody_bodied (name : String) : ⦃Bodied⦄ endInBody name ⦃⇓ _ => Bodied⦄ := by
  mvcgen [endInBody]

@[spec] theorem resetMode_bodied : ⦃Bodied⦄ resetMode ⦃⇓ _ => Bodied⦄ := by
  mvcgen [resetMode]
  all_goals grind

@[spec] theorem fostered_bodied (rule : Build (Option Token)) (h : ⦃Bodied⦄ rule ⦃⇓ _ => Bodied⦄) :
    ⦃Bodied⦄ fostered rule ⦃⇓ _ => Bodied⦄ := by
  mvcgen [fostered, h]

@[spec] theorem inTableScope_bodied (name : String) :
    ⦃Bodied⦄ inTableScope name ⦃⇓ _ => Bodied⦄ := by
  mvcgen [inTableScope]

@[spec] theorem endTable_bodied : ⦃Bodied⦄ endTable ⦃⇓ _ => Bodied⦄ := by
  mvcgen [endTable]

@[spec] theorem endInTable_bodied (name : String) : ⦃Bodied⦄ endInTable name ⦃⇓ _ => Bodied⦄ := by
  mvcgen [endInTable]

@[spec] theorem endCaption_bodied : ⦃Bodied⦄ endCaption ⦃⇓ _ => Bodied⦄ := by
  mvcgen [endCaption]

@[spec] theorem endInCaption_bodied (name : String) :
    ⦃Bodied⦄ endInCaption name ⦃⇓ _ => Bodied⦄ := by
  mvcgen [endInCaption]

@[spec] theorem endColumnGroup_bodied : ⦃Bodied⦄ endColumnGroup ⦃⇓ _ => Bodied⦄ := by
  mvcgen [endColumnGroup]

@[spec] theorem endInColumnGroup_bodied (name : String) :
    ⦃Bodied⦄ endInColumnGroup name ⦃⇓ _ => Bodied⦄ := by
  mvcgen [endInColumnGroup]

@[spec] theorem endRowGroup_bodied (name : String) : ⦃Bodied⦄ endRowGroup name ⦃⇓ _ => Bodied⦄ := by
  mvcgen [endRowGroup]

@[spec] theorem closeRowGroup_bodied : ⦃Bodied⦄ closeRowGroup ⦃⇓ _ => Bodied⦄ := by
  mvcgen [closeRowGroup]

@[spec] theorem endInTableBody_bodied (name : String) :
    ⦃Bodied⦄ endInTableBody name ⦃⇓ _ => Bodied⦄ := by
  mvcgen [endInTableBody]

@[spec] theorem closeRow_bodied : ⦃Bodied⦄ closeRow ⦃⇓ _ => Bodied⦄ := by
  mvcgen [closeRow]

@[spec] theorem endInRow_bodied (name : String) : ⦃Bodied⦄ endInRow name ⦃⇓ _ => Bodied⦄ := by
  mvcgen [endInRow]

@[spec] theorem endCell_bodied (name : String) : ⦃Bodied⦄ endCell name ⦃⇓ _ => Bodied⦄ := by
  mvcgen [endCell]

@[spec] theorem closeCell_bodied : ⦃Bodied⦄ closeCell ⦃⇓ _ => Bodied⦄ := by
  mvcgen [closeCell]

@[spec] theorem endInCell_bodied (name : String) : ⦃Bodied⦄ endInCell name ⦃⇓ _ => Bodied⦄ := by
  mvcgen [endInCell]

@[spec] theorem endSelect_bodied : ⦃Bodied⦄ endSelect ⦃⇓ _ => Bodied⦄ := by
  mvcgen [endSelect]

@[spec] theorem endInSelect_bodied (name : String) : ⦃Bodied⦄ endInSelect name ⦃⇓ _ => Bodied⦄ := by
  mvcgen [endInSelect]

@[spec] theorem endInSelectInTable_bodied (name : String) :
    ⦃Bodied⦄ endInSelectInTable name ⦃⇓ _ => Bodied⦄ := by
  mvcgen [endInSelectInTable]

@[spec] theorem endInMode_bodied (name : String) : ⦃Bodied⦄ endInMode name ⦃⇓ _ => Bodied⦄ := by
  mvcgen [endInMode]
  all_goals grind

@[spec] theorem endInForeign_bodied (name : String) :
    ⦃Bodied⦄ endInForeign name ⦃⇓ _ => Bodied⦄ := by
  mvcgen [endInForeign]

end EditorBlocks.Markup
