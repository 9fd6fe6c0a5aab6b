import EditorBlocks.Markup.StartTag
import EditorBlocks.Proofs.Markup.EndTag
/-! Start tags keep the body, in every mode. -/

open Std.Do
set_option mvcgen.warning false

namespace EditorBlocks.Markup

@[spec] theorem insertOpening_bodied (o : Opening) : ⦃Bodied⦄ insertOpening o ⦃⇓ _ => Bodied⦄ := by
  mvcgen [insertOpening]

@[spec] theorem setTextMode_bodied (textMode : TextMode) :
    ⦃Bodied⦄ setTextMode textMode ⦃⇓ _ => Bodied⦄ := by
  mvcgen [setTextMode]
  all_goals grind

@[spec] theorem openText_bodied (o : Opening) (textMode : TextMode) :
    ⦃Bodied⦄ openText o textMode ⦃⇓ _ => Bodied⦄ := by
  mvcgen [openText]
  all_goals grind

@[spec] theorem mergeAttributes_bodied (i : Nat) (attributes : List (String × String)) :
    ⦃Bodied⦄ mergeAttributes i attributes ⦃⇓ _ => Bodied⦄ :=
  withSketch_bodied _ fun _ _ => Sketch.extends_setTag rfl

@[spec] theorem startHeadElement_bodied (o : Opening) :
    ⦃Bodied⦄ startHeadElement o ⦃⇓ _ => Bodied⦄ := by
  mvcgen [startHeadElement]

@[spec] theorem startListItem_bodied (o : Opening) : ⦃Bodied⦄ startListItem o ⦃⇓ _ => Bodied⦄ := by
  mvcgen [startListItem]

@[spec] theorem startForm_bodied (o : Opening) : ⦃Bodied⦄ startForm o ⦃⇓ _ => Bodied⦄ := by
  mvcgen [startForm]
  all_goals grind

@[spec] theorem startHeading_bodied (o : Opening) : ⦃Bodied⦄ startHeading o ⦃⇓ _ => Bodied⦄ := by
  mvcgen [startHeading]

@[spec] theorem startLink_bodied (o : Opening) : ⦃Bodied⦄ startLink o ⦃⇓ _ => Bodied⦄ := by
  mvcgen [startLink]

@[spec] theorem startNobr_bodied (o : Opening) : ⦃Bodied⦄ startNobr o ⦃⇓ _ => Bodied⦄ := by
  mvcgen [startNobr]

@[spec] theorem startEmpty_bodied (o : Opening) : ⦃Bodied⦄ startEmpty o ⦃⇓ _ => Bodied⦄ := by
  mvcgen [startEmpty]

@[spec] theorem startForeign_bodied (vocabulary : Vocabulary) (o : Opening) :
    ⦃Bodied⦄ startForeign vocabulary o ⦃⇓ _ => Bodied⦄ := by
  mvcgen [startForeign]
  all_goals grind

@[spec] theorem startSelect_bodied (o : Opening) : ⦃Bodied⦄ startSelect o ⦃⇓ _ => Bodied⦄ := by
  mvcgen [startSelect]

@[spec] theorem startRubyPart_bodied (o : Opening) : ⦃Bodied⦄ startRubyPart o ⦃⇓ _ => Bodied⦄ := by
  mvcgen [startRubyPart]

@[spec] theorem startOption_bodied (o : Opening) : ⦃Bodied⦄ startOption o ⦃⇓ _ => Bodied⦄ := by
  mvcgen [startOption]

@[spec] theorem startRule_bodied (o : Opening) : ⦃Bodied⦄ startRule o ⦃⇓ _ => Bodied⦄ := by
  mvcgen [startRule]

@[spec] theorem startIndex_bodied (o : Opening) : ⦃Bodied⦄ startIndex o ⦃⇓ _ => Bodied⦄ := by
  unfold startIndex
  refine bodied_get_bind fun b => ?_
  with_reducible refine bodied_ite ?_ (bodied_pure _)
  with_reducible
    exact bodied_seq (startForm_bodied _) <| bodied_seq (startRule_bodied _) <|
      bodied_seq reconstructFormatting_bodied <| bodied_seq (insertHtml_bodied _ _) <|
      bodied_seq (bodyText_bodied _) <| bodied_seq (startEmpty_bodied _) <|
      bodied_seq (endNearest_bodied _) <| bodied_seq (startRule_bodied _) endForm_bodied

/-- Each of the cases keeps the body; which of them applies is of no matter. -/
@[spec] theorem startInBody_bodied (o : Opening) : ⦃Bodied⦄ startInBody o ⦃⇓ _ => Bodied⦄ := by
  unfold startInBody
  refine bodied_get_bind fun b => ?_
  simp only
  repeat' with_reducible refine bodied_ite ?_ ?_
  all_goals mvcgen
  all_goals grind

@[spec] theorem bodySpace_bodied (data : List Char) : ⦃Bodied⦄ bodySpace data ⦃⇓ _ => Bodied⦄ := by
  mvcgen [bodySpace]
  all_goals grind

@[spec] theorem startInTable_bodied (o : Opening) : ⦃Bodied⦄ startInTable o ⦃⇓ _ => Bodied⦄ := by
  mvcgen [startInTable]
  all_goals grind

@[spec] theorem startInCaption_bodied (o : Opening) :
    ⦃Bodied⦄ startInCaption o ⦃⇓ _ => Bodied⦄ := by
  mvcgen [startInCaption]

@[spec] theorem startInColumnGroup_bodied (o : Opening) :
    ⦃Bodied⦄ startInColumnGroup o ⦃⇓ _ => Bodied⦄ := by
  mvcgen [startInColumnGroup]

@[spec] theorem startRow_bodied (o : Opening) : ⦃Bodied⦄ startRow o ⦃⇓ _ => Bodied⦄ := by
  mvcgen [startRow]

@[spec] theorem startInTableBody_bodied (o : Opening) :
    ⦃Bodied⦄ startInTableBody o ⦃⇓ _ => Bodied⦄ := by
  mvcgen [startInTableBody]

@[spec] theorem startInRow_bodied (o : Opening) : ⦃Bodied⦄ startInRow o ⦃⇓ _ => Bodied⦄ := by
  mvcgen [startInRow]

@[spec] theorem startInCell_bodied (o : Opening) : ⦃Bodied⦄ startInCell o ⦃⇓ _ => Bodied⦄ := by
  mvcgen [startInCell]

@[spec] theorem startInSelect_bodied (o : Opening) : ⦃Bodied⦄ startInSelect o ⦃⇓ _ => Bodied⦄ := by
  mvcgen [startInSelect]

@[spec] theorem startInSelectInTable_bodied (o : Opening) :
    ⦃Bodied⦄ startInSelectInTable o ⦃⇓ _ => Bodied⦄ := by
  mvcgen [startInSelectInTable]

@[spec] theorem startInMode_bodied (o : Opening) : ⦃Bodied⦄ startInMode o ⦃⇓ _ => Bodied⦄ := by
  mvcgen [startInMode]

@[spec] theorem startInForeign_bodied (o : Opening) :
    ⦃Bodied⦄ startInForeign o ⦃⇓ _ => Bodied⦄ := by
  mvcgen [startInForeign]
  rename_i b h _
  exact h.withStack (List.dropWhile_sublist _)

end EditorBlocks.Markup
