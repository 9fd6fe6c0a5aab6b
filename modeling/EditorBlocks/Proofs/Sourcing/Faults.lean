import EditorBlocks.Proofs.Sourcing.Runs
/-! The first fault of a run: the step that raises it, after steps that have all succeeded. -/

namespace EditorBlocks

/-- A predicate raises a fault, when those before it have decided. -/
inductive Predicate.Raises (name : Option String) (block : ParsedBlock) (fault : Fault) :
    Bool → List Predicate → Prop
  | here {included : Bool} {predicate : Predicate} {rest : List Predicate} :
      predicate included name block = .error fault →
      Raises name block fault included (predicate :: rest)
  | later {included : Bool} {answer : Value} {predicate : Predicate} {rest : List Predicate} :
      predicate included name block = .ok answer → Raises name block fault answer.isTruthy rest →
      Raises name block fault included (predicate :: rest)

/-- A processor raises a fault, when those before it have done their work. -/
inductive Processor.Raises (name : Option String) (postId : Option Int) (fault : Fault) :
    Metadata → Option Fault → ParsedBlock → Draft → List Processor → Prop
  | here {metadata : Metadata} {spoilt : Option Fault} {block : ParsedBlock} {sourced : Draft}
      {processor : Processor} {rest : List Processor} {s : Changeable} :
      (processor sourced name postId block).run.run ⟨⟨metadata, block.attrsAt⟩, spoilt⟩ =
        (.error fault, s) →
      Raises name postId fault metadata spoilt block sourced (processor :: rest)
  | later {metadata : Metadata} {spoilt : Option Fault} {block : ParsedBlock}
      {sourced next : Draft} {processor : Processor} {rest : List Processor} {s : Changeable} :
      (processor sourced name postId block).run.run ⟨⟨metadata, block.attrsAt⟩, spoilt⟩ =
        (.ok next, s) →
      Raises name postId fault s.metadata s.spoilt (block.withAttrsAt s.attrs) next rest →
      Raises name postId fault metadata spoilt block sourced (processor :: rest)

namespace SourcingPlan

/-- Where the sourcing of sibling blocks first goes wrong. -/
inductive FirstFault (plan : SourcingPlan) (fault : Fault) : Journal → List ParsedBlock → Prop
  /-- at a predicate -/
  | decided {j : Journal} {block : ParsedBlock} {rest : List ParsedBlock} :
      Predicate.Raises block.name block fault (plan.filter.allows block.name)
        plan.hooks.predicates →
      FirstFault plan fault j (block :: rest)
  /-- at the attributes of a block -/
  | sourced {j i : Journal} {block : ParsedBlock} {rest : List ParsedBlock} :
      (plan.isIncluded block).ends j = (.ok true, i) →
      (plan.attributesOf i.metadata block).outcome = .error fault →
      FirstFault plan fault j (block :: rest)
  /-- at a block inside -/
  | inside {j i : Journal} {block : ParsedBlock} {rest : List ParsedBlock}
      {attributes : List (String × Held)} :
      (plan.isIncluded block).ends j = (.ok true, i) →
      (plan.attributesOf i.metadata block).outcome = .ok attributes →
      FirstFault plan fault (plan.attributed block i) block.inner →
      FirstFault plan fault j (block :: rest)
  /-- at debug data that cannot be shown -/
  | shown {j i k : Journal} {block : ParsedBlock} {rest parsed : List ParsedBlock}
      {attributes : List (String × Held)} {drafts : List Draft} :
      (plan.isIncluded block).ends j = (.ok true, i) →
      (plan.attributesOf i.metadata block).outcome = .ok attributes →
      (plan.sourceAll 0 block.inner).ends (plan.attributed block i) = (.ok (parsed, drafts), k) →
      plan.shows block.name = false → fault = .tooDeep →
      FirstFault plan fault j (block :: rest)
  /-- at a processor -/
  | processed {j i k : Journal} {block : ParsedBlock} {rest parsed : List ParsedBlock}
      {attributes : List (String × Held)} {drafts : List Draft} :
      (plan.isIncluded block).ends j = (.ok true, i) →
      (plan.attributesOf i.metadata block).outcome = .ok attributes →
      (plan.sourceAll 0 block.inner).ends (plan.attributed block i) = (.ok (parsed, drafts), k) →
      plan.shows block.name = true →
      Processor.Raises block.name plan.postId fault k.metadata k.spoilt (block.withInner parsed)
        (plan.draftOf block.name attributes drafts) plan.hooks.processors →
      FirstFault plan fault j (block :: rest)
  /-- at a block that follows -/
  | later {j i : Journal} {block parsed : ParsedBlock} {rest : List ParsedBlock}
      {draft? : Option Draft} :
      (plan.source block).ends j = (.ok (parsed, draft?), i) → FirstFault plan fault i rest →
      FirstFault plan fault j (block :: rest)

section Faults
variable {plan : SourcingPlan} {j : Journal} {block : ParsedBlock} {fault : Fault}

theorem ends_decision_error_iff {name : Option String} {number : Nat} {included : Bool}
    {predicates : List Predicate} :
    (∃ k, (decision name block number included predicates).ends j = (.error fault, k)) ↔
      Predicate.Raises name block fault included predicates := by
  induction predicates generalizing j number included with
  | nil =>
    constructor
    · rintro ⟨k, h⟩
      cases h
    · intro h
      cases h
  | cons predicate rest ih =>
    rw [ends_decision_cons]
    cases hp : predicate included name block with
    | error e =>
      constructor
      · rintro ⟨k, h⟩
        cases h
        exact .here hp
      · intro h
        cases h with
        | here he =>
          cases hp.symm.trans he
          exact ⟨_, rfl⟩
        | later ho _ => cases hp.symm.trans ho
    | ok answer =>
      simp only [ih]
      constructor
      · intro h
        exact .later hp h
      · intro h
        cases h with
        | here he => cases hp.symm.trans he
        | later ho hr =>
          cases hp.symm.trans ho
          exact hr

theorem ends_process_error_iff {name : Option String} {postId : Option Int} {number : Nat}
    {sourced : Draft} {processors : List Processor} :
    (∃ k, (process name postId block number sourced processors).ends j = (.error fault, k)) ↔
      Processor.Raises name postId fault j.metadata j.spoilt block sourced processors := by
  induction processors generalizing j block number sourced with
  | nil =>
    constructor
    · rintro ⟨k, h⟩
      cases h
    · intro h
      cases h
  | cons processor rest ih =>
    rw [ends_process_cons]
    rw [Journal.changeable]
    cases hp : (processor sourced name postId block).run.run
        ⟨⟨j.metadata, block.attrsAt⟩, j.spoilt⟩ with
    | mk outcome s =>
      cases outcome with
      | error e =>
        constructor
        · rintro ⟨k, h⟩
          cases h
          exact .here hp
        · intro h
          cases h with
          | here he =>
            cases hp.symm.trans he
            exact ⟨_, rfl⟩
          | later ho _ => cases hp.symm.trans ho
      | ok next =>
        simp only [ih]
        constructor
        · intro h
          exact .later hp h
        · intro h
          cases h with
          | here he => cases hp.symm.trans he
          | later ho hr =>
            cases hp.symm.trans ho
            exact hr

mutual
theorem firstFault_of_source : ∀ (b : ParsedBlock) {j k : Journal} (rest : List ParsedBlock),
    (plan.source b).ends j = (.error fault, k) → FirstFault plan fault j (b :: rest)
  | .mk name attrs html inner, j, k, rest, h => by
    cases hi : (plan.isIncluded (.mk name attrs html inner)).ends j with
    | mk included i =>
      cases included with
      | error e =>
        rw [ends_source, hi] at h
        cases h
        exact .decided (ends_decision_error_iff.mp ⟨_, hi⟩)
      | ok answer =>
        cases answer with
        | false =>
          rw [ends_source, hi] at h
          cases h
        | true =>
          rw [ends_source_of_admitted hi] at h
          cases ha : (plan.attributesOf i.metadata (.mk name attrs html inner)).outcome with
          | error e =>
            rw [ha] at h
            cases h
            exact .sourced hi ha
          | ok attributes =>
            rw [ha] at h
            simp only at h
            split at h
            · rename_i e l hinner
              cases h
              exact .inside hi ha (firstFault_of_sourceAll inner hinner)
            · rename_i parsed drafts l hinner
              split at h
              · rename_i hshows
                split at h
                · rename_i e m hprocess
                  cases h
                  exact .processed hi ha hinner hshows (ends_process_error_iff.mp ⟨_, hprocess⟩)
                · cases h
              · rename_i hshows
                cases h
                exact .shown hi ha hinner (Bool.not_eq_true _ ▸ hshows) rfl

theorem firstFault_of_sourceAll : ∀ (bs : List ParsedBlock) {number : Nat} {j k : Journal},
    (plan.sourceAll number bs).ends j = (.error fault, k) → FirstFault plan fault j bs
  | [], number, j, k, h => by
    rw [ends_sourceAll_nil] at h
    cases h
  | b :: rest, number, j, k, h => by
    rw [ends_sourceAll_cons] at h
    split at h
    · rename_i e i hfirst
      cases h
      exact firstFault_of_source b rest hfirst
    · rename_i parsed draft? i hfirst
      split at h
      · rename_i e l hrest
        cases h
        exact .later hfirst (firstFault_of_sourceAll rest hrest)
      · cases h
end

/-- The fault that ends a run is the first one, and a first fault ends it. -/
theorem ends_sourceAll_error_iff {bs : List ParsedBlock} (number : Nat) :
    (∃ k, (plan.sourceAll number bs).ends j = (.error fault, k)) ↔ FirstFault plan fault j bs := by
  constructor
  · rintro ⟨k, h⟩
    exact firstFault_of_sourceAll bs h
  · intro h
    induction h generalizing number with
    | decided hr =>
      obtain ⟨k, hk⟩ := ends_decision_error_iff.mpr hr
      rw [ends_sourceAll_cons, ends_source]
      change (isIncluded _ _).ends _ = _ at hk
      rw [hk]
      exact ⟨_, rfl⟩
    | sourced hi ha =>
      rw [ends_sourceAll_cons, ends_source_of_admitted hi, ha]
      exact ⟨_, rfl⟩
    | inside hi ha _ ih =>
      obtain ⟨k, hk⟩ := ih 0
      rw [ends_sourceAll_cons, ends_source_of_admitted hi, ha]
      simp only [hk]
      exact ⟨_, rfl⟩
    | shown hi ha hinner hshows he =>
      rw [ends_sourceAll_cons, ends_source_of_admitted hi, ha, he]
      simp only [hinner, hshows]
      exact ⟨_, rfl⟩
    | processed hi ha hinner hshows hr =>
      have hp : ∃ k, (process _ plan.postId _ 0 _ _).ends _ = (.error fault, k) :=
        ends_process_error_iff.mpr hr
      obtain ⟨k, hk⟩ := hp
      rw [ends_sourceAll_cons, ends_source_of_admitted hi, ha]
      simp only [hinner, hshows, hk, ↓reduceIte]
      exact ⟨_, rfl⟩
    | later hfirst _ ih =>
      obtain ⟨k, hk⟩ := ih (number + 1)
      rw [ends_sourceAll_cons, hfirst]
      simp only [hk]
      exact ⟨_, rfl⟩

end Faults

end SourcingPlan
end EditorBlocks
