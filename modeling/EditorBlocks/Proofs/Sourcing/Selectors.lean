import EditorBlocks.Proofs.Attribute.Selectors
import EditorBlocks.Proofs.Markup.Read
import EditorBlocks.Proofs.Sourcing.Pruning
/-! What makes sourcing fail when hooks only decide: a selector that cannot be read, evaluated for a
block that is entered. -/

namespace EditorBlocks

/-- From this journal the computation ends with a fault. -/
def Sourcing.FailsFrom {α : Type} (x : Sourcing α) (j : Journal) : Prop :=
  ∃ fault, (x.ends j).1 = .error fault

namespace SourcingPlan
open Sourcing

/-- The selectors that are evaluated for the attributes of a block. -/
def evaluated (plan : SourcingPlan) (block : ParsedBlock) : List String :=
  (plan.definitionsOf block.name).flatMap fun e => e.2.evaluated (Scope.ofFragment block.html)

section Fails
variable {plan : SourcingPlan} {answers : List Answer}

/-- A plan that only decides, and that neither the number of its post nor debug data keeps from
sourcing a block. -/
structure IsPlain (plan : SourcingPlan) (answers : List Answer) : Prop where
  decides : plan.OnlyDecides answers
  post : plan.postId.all Text.fitsDigitLimit
  shows : ∀ name, plan.shows name

/-- The attributes of a block can be sourced unless a selector cannot be read. -/
theorem fails_attributesOf (hpost : plan.postId.all Text.fitsDigitLimit) (metadata : Metadata)
    (block : ParsedBlock) :
    Log.Noted.Fails (plan.attributesOf metadata block) ↔ AnyUnreadable (plan.evaluated block) :=
  fails_sourceEach hpost (Scope.ofFragment_places block.html) _ _

mutual
theorem source_failsFrom (hp : plan.IsPlain answers) : ∀ (b : ParsedBlock) (j : Journal),
    FailsFrom (plan.source b) j ↔
      ∃ c ∈ b.entered (admits plan.filter answers), AnyUnreadable (plan.evaluated c)
  | .mk name attrs html inner, j => by
    obtain ⟨i, hi, -⟩ := ends_isIncluded (j := j) hp.decides (.mk name attrs html inner)
    unfold FailsFrom
    rw [ParsedBlock.entered]
    by_cases ha : admits plan.filter answers (.mk name attrs html inner)
    · rw [ha] at hi
      rw [ends_source_of_admitted hi, if_pos ha]
      -- The metadata has no part in which selectors are evaluated, so the one at hand will do.
      simp only [List.mem_cons, exists_eq_or_imp, ← fails_attributesOf hp.post i.metadata]
      have hinner := sourceAll_failsFrom hp inner 0 (plan.attributed (.mk name attrs html inner) i)
      simp only [← fails_attributesOf hp.post i.metadata] at hinner
      rw [← hinner]
      unfold Log.Noted.Fails FailsFrom
      cases (plan.attributesOf i.metadata (.mk name attrs html inner)).outcome with
      | error e => simp
      | ok attributes =>
        simp only [reduceCtorEq, exists_false, false_or, ParsedBlock.inner, hp.decides.processors,
          process, hp.shows, ↓reduceIte]
        generalize (plan.sourceAll 0 inner).ends _ = ended
        obtain ⟨outcome, k⟩ := ended
        cases outcome <;> simp
    · rw [Bool.not_eq_true] at ha
      rw [ends_source, hi, ha]
      simp

theorem sourceAll_failsFrom (hp : plan.IsPlain answers) :
    ∀ (bs : List ParsedBlock) (number : Nat) (j : Journal),
    FailsFrom (plan.sourceAll number bs) j ↔
      ∃ c ∈ ParsedBlock.enteredOfList (admits plan.filter answers) bs,
        AnyUnreadable (plan.evaluated c)
  | [], number, j => by
    simp [FailsFrom, ends_sourceAll_nil, ParsedBlock.enteredOfList]
  | b :: rest, number, j => by
    have hfirst := source_failsFrom hp b j
    unfold FailsFrom at hfirst ⊢
    simp only [ends_sourceAll_cons, ParsedBlock.enteredOfList, List.mem_append, or_and_right,
      exists_or, ← hfirst]
    generalize (plan.source b).ends j = ended
    obtain ⟨outcome, i⟩ := ended
    cases outcome with
    | error e => simp
    | ok found =>
      rw [← sourceAll_failsFrom hp rest (number + 1) i]
      unfold FailsFrom
      simp only [reduceCtorEq, exists_false, false_or]
      generalize (plan.sourceAll (number + 1) rest).ends i = ended
      obtain ⟨outcome, k⟩ := ended
      cases outcome <;> simp
end

end Fails

end SourcingPlan
end EditorBlocks
