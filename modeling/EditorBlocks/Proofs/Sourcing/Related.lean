import EditorBlocks.Proofs.Attribute.Lookups
import EditorBlocks.Proofs.Sourcing.Runs
/-! Two runs of one plan: a relation of journals that the steps of a plan respect is kept by whole
runs, and the runs end alike. -/

namespace EditorBlocks

/-- From related journals the computation ends with one outcome, and in related journals. -/
def Sourcing.EndsAlike {α : Type} (R : Journal → Journal → Prop) (x : Sourcing α) : Prop :=
  ∀ ⦃i j⦄, R i j → ∃ outcome i' j', x.ends i = (outcome, i') ∧ x.ends j = (outcome, j') ∧ R i' j'

namespace SourcingPlan

/-- What each step of a plan does to related journals. -/
structure Respects (plan : SourcingPlan) (R : Journal → Journal → Prop) : Prop where
  noted : ∀ {i j}, R i j → ∀ records records', R (i.noted records) (j.noted records')
  warn : ∀ {i j}, R i j → ∀ warning, R (i.warn warning) (j.warn warning)
  called : ∀ {i j}, R i j → ∀ call, R (i.called call) (j.called call)
  sourced : ∀ {i j}, R i j → ∀ block,
    (plan.attributesOf i.metadata block).outcome = (plan.attributesOf j.metadata block).outcome
  processed : ∀ {i j}, R i j → ∀ processor ∈ plan.hooks.processors, ∀ sourced name block,
    ∃ outcome attrs spoilt m n,
      (processor sourced name plan.postId block).run.run (i.changeable block.attrsAt) =
        (outcome, ⟨⟨m, attrs⟩, spoilt⟩) ∧
      (processor sourced name plan.postId block).run.run (j.changeable block.attrsAt) =
        (outcome, ⟨⟨n, attrs⟩, spoilt⟩) ∧
      R (i.changedTo ⟨⟨m, attrs⟩, spoilt⟩) (j.changedTo ⟨⟨n, attrs⟩, spoilt⟩)

section Alike
variable {plan : SourcingPlan} {R : Journal → Journal → Prop} {i j : Journal}

theorem Respects.lookedUp (hR : plan.Respects R) (h : R i j) (name : Option String) :
    R (plan.lookedUp name i) (plan.lookedUp name j) := by
  unfold SourcingPlan.lookedUp
  split
  · exact hR.warn (hR.noted h [_] [_]) _
  · exact h

theorem Respects.decision_alike (hR : plan.Respects R) (name : Option String)
    (block : ParsedBlock) (number : Nat) (included : Bool) (predicates : List Predicate) :
    Sourcing.EndsAlike R (decision name block number included predicates) := by
  induction predicates generalizing number included with
  | nil =>
    intro i j h
    exact ⟨_, i, j, rfl, rfl, h⟩
  | cons predicate rest ih =>
    intro i j h
    rw [ends_decision_cons, ends_decision_cons]
    cases predicate included name block with
    | error e => exact ⟨_, _, _, rfl, rfl, hR.called h _⟩
    | ok answer => exact ih _ _ (hR.called h _)

theorem Respects.process_alike (hR : plan.Respects R) (name : Option String)
    (block : ParsedBlock) (number : Nat) (sourced : Draft) {processors : List Processor}
    (hsub : processors ⊆ plan.hooks.processors) :
    Sourcing.EndsAlike R (process name plan.postId block number sourced processors) := by
  induction processors generalizing block number sourced with
  | nil =>
    intro i j h
    exact ⟨_, i, j, rfl, rfl, h⟩
  | cons processor rest ih =>
    intro i j h
    rw [List.cons_subset] at hsub
    have hcalled := hR.called h (.processed number sourced name plan.postId block)
    obtain ⟨outcome, attrs, spoilt, m, n, hi, hj, hr⟩ :=
      hR.processed hcalled processor hsub.1 sourced name block
    change (processor sourced name plan.postId block).run.run (i.changeable block.attrsAt) = _ at hi
    change (processor sourced name plan.postId block).run.run (j.changeable block.attrsAt) = _ at hj
    rw [ends_process_cons, ends_process_cons, hi, hj]
    cases outcome with
    | error e => exact ⟨_, _, _, rfl, rfl, hr⟩
    | ok next => exact ih _ _ _ hsub.2 hr

mutual
theorem Respects.source_alike (hR : plan.Respects R) :
    ∀ b : ParsedBlock, Sourcing.EndsAlike R (plan.source b)
  | .mk name attrs html inner => by
    intro i j h
    obtain ⟨included, i₁, j₁, hi, hj, h₁⟩ := hR.decision_alike name
      (.mk name attrs html inner) 0 (plan.filter.allows name) plan.hooks.predicates h
    rw [ends_source, ends_source]
    change (plan.isIncluded (.mk name attrs html inner)).ends i = _ at hi
    change (plan.isIncluded (.mk name attrs html inner)).ends j = _ at hj
    rw [hi, hj]
    cases included with
    | error e => exact ⟨_, _, _, rfl, rfl, h₁⟩
    | ok answer =>
      cases answer with
      | false => exact ⟨_, _, _, rfl, rfl, hR.noted h₁ [_] [_]⟩
      | true =>
        have h₂ := hR.lookedUp h₁ name
        have hattributes := hR.sourced h₂ (.mk name attrs html inner)
        have h₃ := hR.noted h₂
          (plan.attributesOf (plan.lookedUp name i₁).metadata (.mk name attrs html inner)).records
          (plan.attributesOf (plan.lookedUp name j₁).metadata (.mk name attrs html inner)).records
        simp only [ends_sourceAdmitted, ParsedBlock.name, ParsedBlock.inner]
        rw [hattributes]
        cases (plan.attributesOf (plan.lookedUp name j₁).metadata
          (.mk name attrs html inner)).outcome with
        | error e => exact ⟨_, _, _, rfl, rfl, h₃⟩
        | ok attributes =>
          obtain ⟨found, i₄, j₄, hi₄, hj₄, h₄⟩ := hR.sourceAll_alike inner 0 h₃
          simp only
          rw [hi₄, hj₄]
          cases found with
          | error e => exact ⟨_, _, _, rfl, rfl, h₄⟩
          | ok found =>
            obtain ⟨innerParsed, innerSourced⟩ := found
            obtain ⟨last, i₅, j₅, hi₅, hj₅, h₅⟩ := hR.process_alike name
              ((ParsedBlock.mk name attrs html inner).withInner innerParsed) 0
              (plan.draftOf name attributes innerSourced) (List.Subset.refl _) h₄
            simp only
            rw [hi₅, hj₅]
            by_cases hshows : plan.shows name
            · simp only [hshows, ↓reduceIte]
              cases last <;> exact ⟨_, _, _, rfl, rfl, h₅⟩
            · simp only [hshows]
              exact ⟨_, _, _, rfl, rfl, h₄⟩

theorem Respects.sourceAll_alike (hR : plan.Respects R) :
    ∀ (bs : List ParsedBlock) (number : Nat), Sourcing.EndsAlike R (plan.sourceAll number bs)
  | [], number => by
    intro i j h
    rw [ends_sourceAll_nil, ends_sourceAll_nil]
    exact ⟨_, _, _, rfl, rfl, h⟩
  | b :: rest, number => by
    intro i j h
    obtain ⟨first, i₁, j₁, hi, hj, h₁⟩ := hR.source_alike b h
    rw [ends_sourceAll_cons, ends_sourceAll_cons, hi, hj]
    cases first with
    | error e => exact ⟨_, _, _, rfl, rfl, h₁⟩
    | ok first =>
      obtain ⟨others, i₂, j₂, hi₂, hj₂, h₂⟩ := hR.sourceAll_alike rest (number + 1) h₁
      simp only
      rw [hi₂, hj₂]
      cases others <;> exact ⟨_, _, _, rfl, rfl, h₂⟩
end

end Alike

/-- A relation of metadata that tells the same values, and that processors respect, is kept with
the warnings, with what spoils the parsed blocks and with the count of uses. -/
theorem respects_of_metadata {plan : SourcingPlan} {M : Metadata → Metadata → Prop}
    (ht : ∀ {m n}, M m n → m.TellsAlike n)
    (hp : ∀ {m n}, M m n → ∀ processor ∈ plan.hooks.processors, ∀ sourced name block spoilt,
      ∃ outcome attrs spoilt' m' n',
        (processor sourced name plan.postId block).run.run ⟨⟨m, block.attrsAt⟩, spoilt⟩ =
          (outcome, ⟨⟨m', attrs⟩, spoilt'⟩) ∧
        (processor sourced name plan.postId block).run.run ⟨⟨n, block.attrsAt⟩, spoilt⟩ =
          (outcome, ⟨⟨n', attrs⟩, spoilt'⟩) ∧
        M m' n')
    (uses : Nat) : plan.Respects fun i j =>
      M i.metadata j.metadata ∧ i.spoilt = j.spoilt ∧ i.warnings = j.warnings ∧ i.uses = uses where
  noted h _ _ := h
  warn := by
    rintro i j ⟨hm, hs, hw, hn⟩ warning
    unfold Journal.warn
    rw [hw]
    split
    · exact ⟨hm, hs, hw, hn⟩
    · exact ⟨hm, hs, rfl, hn⟩
  called h _ := h
  sourced := by
    rintro i j ⟨hm, -⟩ block
    exact sourceEach_congr (ht hm) _ _ _
  processed := by
    rintro i j ⟨hm, hs, hw⟩ processor hmem sourced name block
    obtain ⟨outcome, attrs, spoilt, m, n, hi, hj, hmn⟩ :=
      hp hm processor hmem sourced name block j.spoilt
    rw [Journal.changeable, hs]
    exact ⟨outcome, attrs, spoilt, m, n, hi, hj, hmn, rfl, hw⟩

/-- Only processors spoil parsed blocks. -/
theorem spoilt_sourceAll {plan : SourcingPlan} (hq : plan.hooks.processors = [])
    (bs : List ParsedBlock) (number : Nat) (j : Journal) :
    ((plan.sourceAll number bs).ends j).2.spoilt = j.spoilt := by
  have hR : plan.Respects fun i k => i.metadata = k.metadata ∧ i.spoilt = j.spoilt := {
    noted := fun h _ _ => h
    warn := by
      rintro i k h warning
      rw [Journal.warn_metadata, Journal.warn_metadata, Journal.warn_spoilt]
      exact h
    called := fun h _ => h
    sourced := by
      rintro i k ⟨hm, -⟩ block
      rw [hm]
    processed := by
      intro i k h processor hmem
      rw [hq] at hmem
      cases hmem }
  obtain ⟨outcome, i, k, hi, -, -, hspoilt⟩ := hR.sourceAll_alike bs number ⟨rfl, rfl⟩
  rw [hi]
  exact hspoilt

end SourcingPlan
end EditorBlocks
