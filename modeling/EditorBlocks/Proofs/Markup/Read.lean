import EditorBlocks.Markup.Scope
import EditorBlocks.Proofs.Markup.StartTag
/-! Whatever a fragment holds, its document has a body. -/

open Std.Do
set_option mvcgen.warning false

namespace EditorBlocks.Markup

@[spec] theorem textInMode_bodied (data : List Char) :
    ⦃Bodied⦄ textInMode data ⦃⇓ _ => Bodied⦄ := by
  mvcgen [textInMode]
  all_goals grind

@[spec] theorem spaceInMode_bodied (data : List Char) :
    ⦃Bodied⦄ spaceInMode data ⦃⇓ _ => Bodied⦄ := by
  mvcgen [spaceInMode]
  all_goals grind

@[spec] theorem commentInMode_bodied (data : String) :
    ⦃Bodied⦄ commentInMode data ⦃⇓ _ => Bodied⦄ := by
  mvcgen [commentInMode]

@[spec] theorem treat_bodied (token : Token) : ⦃Bodied⦄ treat token ⦃⇓ _ => Bodied⦄ := by
  mvcgen [treat]

@[spec] theorem treatAll_bodied (rounds : Nat) (token : Token) :
    ⦃Bodied⦄ treatAll rounds token ⦃⇓ _ => Bodied⦄ := by
  induction rounds generalizing token with
  | zero => mvcgen [treatAll]
  | succ rounds ih => mvcgen [treatAll, ih]

@[spec] theorem treatToken_bodied (token : Token) : ⦃Bodied⦄ treatToken token ⦃⇓ _ => Bodied⦄ := by
  mvcgen [treatToken]

theorem readTokens_bodied (room : Nat) (cs : List Char) :
    ⦃Bodied⦄ readTokens room cs ⦃⇓ _ => Bodied⦄ := by
  induction room generalizing cs with
  | zero => mvcgen [readTokens]
  | succ room ih => mvcgen [readTokens, ih]

theorem Builder.initial_hasBody : Builder.initial.HasBody where
  sketch := {
    size := by decide
    root := by decide
    body := by decide
    isElement := ⟨_, rfl⟩
    isBody := ⟨_, rfl, rfl⟩
    later := by
      intro i hi c hc
      have hsize : Builder.initial.sketch.nodes.size = 4 := rfl
      rw [Sketch.children, Array.getElem?_eq_none (by omega)] at hc
      cases hc }
  formatting := by
    intro i hi
    cases hi
  stack := by decide

/-- Reading keeps the body that it begins with. -/
theorem readTokens_hasBody (room : Nat) (cs : List Char) :
    ((readTokens room cs).run Builder.initial).2.HasBody :=
  readTokens_bodied room cs Builder.initial Builder.initial_hasBody

end EditorBlocks.Markup

namespace EditorBlocks

/-- Whatever a fragment holds, its body is found. -/
theorem Document.ofFragment_body? (html : String) : (Document.ofFragment html).body?.isSome := by
  rw [Document.ofFragment]
  generalize Text.unifyBreaks (html ++ "</body></html>").toList = cs
  exact (Markup.readTokens_hasBody (cs.length + 1) cs).sketch.body?_isSome

theorem Scope.ofFragment_places (html : String) : (Scope.ofFragment html).places ≠ [] := by
  obtain ⟨body, hbody⟩ := Option.isSome_iff_exists.mp (Document.ofFragment_body? html)
  rw [Scope.ofFragment, hbody]
  exact List.cons_ne_nil body []

end EditorBlocks
