import EditorBlocks.Proofs.Sourcing.Pruning
/-! Sourcing without processors, told directly: a function of what is decided and found for each
block, in which neither the journal nor the post has a part. -/

namespace EditorBlocks

/-- What is decided, found and added for the blocks of a forest. -/
structure Findings where
  verdict : ParsedBlock → Except Fault Bool
  attributes : ParsedBlock → Except Fault (List (String × Value))
  debug : Option String → Except Fault (Option (List (String × Value)))

namespace Findings

mutual
/-- A block with what is found for it and inside it, if it is admitted; the first fault ends it. -/
def complete (f : Findings) : ParsedBlock → Except Fault (Option SourcedBlock)
  | .mk name attrs html inner => do
    if ← f.verdict (.mk name attrs html inner) then
      let attributes ← f.attributes (.mk name attrs html inner)
      let completed ← completeAll f inner
      let debug ← f.debug name
      return some (.mk name (some attributes) completed debug)
    else return none

def completeAll (f : Findings) : List ParsedBlock → Except Fault (List SourcedBlock)
  | [] => return []
  | b :: rest => do
    let first ← complete f b
    let others ← completeAll f rest
    return first.toList ++ others
end

end Findings

namespace SourcingPlan
variable {plan : SourcingPlan} {j : Journal}

/-- What the attributes of a block come to, or the fault of finding them. -/
def foundAttributes (plan : SourcingPlan) (metadata : Metadata) (block : ParsedBlock) :
    Except Fault (List (String × Value)) :=
  (plan.attributesOf metadata block).outcome.map
    (Entries.mapValues (Held.settle ⟨metadata, block.attrsAt⟩))

/-- What a plan finds over metadata. -/
def findings (plan : SourcingPlan) (metadata : Metadata) : Findings :=
  ⟨plan.verdict, plan.foundAttributes metadata, fun name => plan.shown (plan.typeOf name)⟩

/-- A run from a journal has ended as is told directly: with a fault, or with the blocks as they were
parsed and what is seen of the sourced ones. The metadata is as it was. -/
inductive EndsAsTold {α β γ : Type} (j : Journal) (seen : α → β) (parsed : γ) :
    Except Fault β → Except Fault (γ × α) × Journal → Prop
  | fault {e : Fault} {i : Journal} (hi : i.metadata = j.metadata) :
    EndsAsTold j seen parsed (.error e) (.error e, i)
  | told {a : α} {b : β} {i : Journal} (hi : i.metadata = j.metadata) (hb : seen a = b) :
    EndsAsTold j seen parsed (.ok b) (.ok (parsed, a), i)

theorem foundAttributes_of_ok {metadata : Metadata} {block : ParsedBlock}
    {merged : List (String × Held)} (h : (plan.attributesOf metadata block).outcome = .ok merged) :
    plan.foundAttributes metadata block = .ok (plan.ownAttributes metadata block) := by
  have hsourced : (sourceAttributes ⟨metadata, plan.postId⟩ block
      (plan.definitionsOf block.name)).outcome = .ok merged := h
  rw [ownAttributes, settledAttributes, hsourced, foundAttributes, h]
  rfl

/-- An admitted block is sourced as is told directly if the blocks inside it are. -/
theorem source_direct_of_admitted (hq : plan.hooks.processors = []) {block : ParsedBlock}
    {i : Journal} (hadmitted : (plan.isIncluded block).ends j = (.ok true, i)) (hi : i.metadata = j.metadata)
    (hinner : ∀ k, k.metadata = j.metadata →
      EndsAsTold k (List.map (Draft.settle ⟨j.metadata, block.attrsAt⟩)) block.inner
        ((plan.findings j.metadata).completeAll block.inner)
        ((plan.sourceAll 0 block.inner).ends k)) :
    EndsAsTold j (Option.map (Draft.settle ⟨j.metadata, block.attrsAt⟩)) block
      (do
        let attributes ← plan.foundAttributes j.metadata block
        let completed ← (plan.findings j.metadata).completeAll block.inner
        let debug ← plan.shown (plan.typeOf block.name)
        return some (.mk block.name (some attributes) completed debug))
      ((plan.source block).ends j) := by
  have hentered : (plan.attributed block i).metadata = j.metadata := lookedUp_metadata.trans hi
  rw [ends_source_of_admitted hadmitted, hi]
  cases hmerged : (plan.attributesOf j.metadata block).outcome with
  | error e =>
    rw [foundAttributes, hmerged]
    exact .fault hentered
  | ok merged =>
    have hsourced := hinner _ hentered
    rw [foundAttributes_of_ok hmerged]
    have hsame : block.withInner block.inner = block := by cases block; rfl
    simp only [hq, process]
    change EndsAsTold j _ _ ((plan.findings j.metadata).completeAll block.inner >>= _) _
    generalize (plan.findings j.metadata).completeAll block.inner = told at hsourced
    generalize (plan.sourceAll 0 block.inner).ends _ = ended at hsourced
    cases hsourced with
    | fault hk => exact .fault (hk.trans hentered)
    | told hk hb =>
      have hk := hk.trans hentered
      simp only [shown_typeOf]
      by_cases hshows : plan.shows block.name
      · simp only [hshows, ↓reduceIte, hsame]
        refine .told hk (congrArg some ?_)
        rw [← hb]
        exact settle_settled _ hmerged
      · simp only [hshows]
        exact .fault hk

mutual
theorem source_direct (hq : plan.hooks.processors = []) : ∀ (b : ParsedBlock) (j : Journal),
    EndsAsTold j (Option.map (Draft.settle ⟨j.metadata, b.attrsAt⟩)) b
      ((plan.findings j.metadata).complete b) ((plan.source b).ends j)
  | .mk name attrs html inner, j => by
    obtain ⟨calls, hi⟩ := ends_isIncluded_verdict plan (.mk name attrs html inner) j
    rw [Findings.complete]
    change EndsAsTold j _ _ (plan.verdict (.mk name attrs html inner) >>= _) _
    cases hv : plan.verdict (.mk name attrs html inner) with
    | error e =>
      rw [ends_source, hi, hv]
      exact .fault rfl
    | ok answer =>
      rw [hv] at hi
      cases answer with
      | false =>
        rw [ends_source, hi]
        exact .told rfl rfl
      | true =>
        refine source_direct_of_admitted hq hi rfl fun k hk => ?_
        have hinner := sourceAll_direct hq inner
          (ParsedBlock.areOf_attrsAt (.mk name attrs html inner)) k
        rwa [hk] at hinner

theorem sourceAll_direct (hq : plan.hooks.processors = []) :
    ∀ (bs : List ParsedBlock) {number : Nat} {attrs : PlacedAttrs}, attrs.AreOf number bs →
      ∀ j : Journal, EndsAsTold j (List.map (Draft.settle ⟨j.metadata, attrs⟩)) bs
        ((plan.findings j.metadata).completeAll bs) ((plan.sourceAll number bs).ends j)
  | [], number, attrs, _, j => by
    rw [ends_sourceAll_nil]
    exact .told rfl rfl
  | b :: rest, number, attrs, ⟨hb, hbs⟩, j => by
    have hfirst := source_direct hq b j
    rw [Findings.completeAll, ends_sourceAll_cons]
    generalize (plan.findings j.metadata).complete b = told at hfirst
    generalize (plan.source b).ends j = ended at hfirst
    cases hfirst with
    | fault hi => exact .fault hi
    | @told first _ i hi hseen =>
      have hrest := sourceAll_direct hq rest hbs i
      rw [hi] at hrest
      change EndsAsTold j _ _ ((plan.findings j.metadata).completeAll rest >>= _) _
      generalize (plan.findings j.metadata).completeAll rest = told at hrest
      simp only
      generalize (plan.sourceAll (number + 1) rest).ends i = ended at hrest
      cases hrest with
      | fault hk => exact .fault (hk.trans hi)
      | told hk hrest =>
        refine .told (hk.trans hi) ?_
        rw [List.map_append, ← hseen, ← hrest, Draft.settle_within_toList, Shared.inside, hb,
          Option.toList_map]
end

end SourcingPlan
end EditorBlocks
