import EditorBlocks.Proofs.Block.Places
import EditorBlocks.Proofs.Hook.Confined
import EditorBlocks.Proofs.Sourcing.Runs
import Mathlib.Data.List.Forall2
/-! What sourcing leaves of the parsed blocks: only explicit attributes change, by what processors of
admitted blocks do in place to those of their block and of the blocks inside it. -/

namespace EditorBlocks

/-- Whatever a processor does, the explicit attributes of its block and of those inside it stay as
they are. -/
def Processor.KeepsExplicit (q : Processor) : Prop :=
  ∀ sourced name postId (block : ParsedBlock) metadata spoilt,
    ((q sourced name postId block).run.run ⟨⟨metadata, block.attrsAt⟩, spoilt⟩).2.attrs =
      block.attrsAt

/-- A ready-made processor keeps explicit attributes, unless it changes a value in place. -/
theorem ProcessorRule.toProcessor_keepsExplicit {rule : ProcessorRule} (h : rule.appends = false) :
    rule.toProcessor.KeepsExplicit := by
  intro d name postId block metadata spoilt
  rw [toProcessor, apply_unchanged d name postId block _ h]

namespace SourcingPlan
variable {plan : SourcingPlan} {name : Option String} {postId : Option Int} {i j : Journal}

/-- A block and what processors, each after the one before, have left of it. -/
inductive Leaves (name : Option String) (postId : Option Int) :
    List Processor → ParsedBlock → ParsedBlock → Prop
  | untouched (block : ParsedBlock) : Leaves name postId [] block block
  | processed {processor : Processor} {rest : List Processor} {block left : ParsedBlock}
      (sourced : Draft) (metadata : Metadata) (spoilt : Option Fault)
      (hrest : Leaves name postId rest (block.withAttrsAt ((processor sourced name postId block).run.run
        ⟨⟨metadata, block.attrsAt⟩, spoilt⟩).2.attrs) left) :
      Leaves name postId (processor :: rest) block left

/-- A parsed block and what sourcing has left of it. Only processors leave a trace, those of a block
that is admitted with all blocks around it, after those of the blocks inside. -/
inductive Echoes (plan : SourcingPlan) : ParsedBlock → ParsedBlock → Prop
  | turnedDown {block : ParsedBlock} (h : plan.admitted block = false) : Echoes plan block block
  | entered {block left : ParsedBlock} {inner : List ParsedBlock} (h : plan.admitted block = true)
      (hinner : List.Forall₂ (Echoes plan) block.inner inner)
      (hleft : Leaves block.name plan.postId plan.hooks.processors (block.withInner inner) left) :
      Echoes plan block left

/-! ### Every run leaves echoes -/

theorem leaves_of_process {processors : List Processor} {block left : ParsedBlock} {number : Nat}
    {sourced processed : Draft}
    (h : (process name postId block number sourced processors).ends j =
      (.ok (processed, left), i)) : Leaves name postId processors block left := by
  induction processors generalizing block number sourced j with
  | nil =>
    rw [process, Sourcing.ends_pure] at h
    cases h
    exact .untouched _
  | cons processor rest ih =>
    rw [ends_process_cons] at h
    rw [Journal.changeable] at h
    refine .processed sourced j.metadata j.spoilt ?_
    generalize (processor sourced name postId block).run.run
      ⟨⟨j.metadata, block.attrsAt⟩, j.spoilt⟩ = ended at h ⊢
    obtain ⟨outcome, shared⟩ := ended
    cases outcome with
    | error e => cases h
    | ok sourced => exact ih h

mutual
/-- Sourcing leaves an echo of a block. -/
theorem echoes_of_source : ∀ (b : ParsedBlock) {j i : Journal} {left : ParsedBlock}
    {sourced : Option Draft}, (plan.source b).ends j = (.ok (left, sourced), i) →
    plan.Echoes b left
  | .mk name attrs html inner, j, i, left, sourced, h => by
    obtain ⟨calls, ⟨hadmitted, rfl, -, -⟩ | ⟨hadmitted, _, _, _, _, _, -, hinner, hprocess, -⟩⟩ :=
      source_cases h
    · exact .turnedDown hadmitted
    · exact .entered hadmitted (echoes_of_sourceAll inner hinner) (leaves_of_process hprocess)

theorem echoes_of_sourceAll : ∀ (bs : List ParsedBlock) {j i : Journal} {left : List ParsedBlock}
    {number : Nat} {sourced : List Draft},
    (plan.sourceAll number bs).ends j = (.ok (left, sourced), i) →
    List.Forall₂ plan.Echoes bs left
  | [], j, i, left, number, sourced, h => by
    rw [ends_sourceAll_nil] at h
    cases h
    exact .nil
  | b :: rest, j, i, left, number, sourced, h => by
    obtain ⟨_, _, _, _, _, hfirst, hrest, rfl, -⟩ := sourceAll_cons_cases h
    exact .cons (echoes_of_source b hfirst) (echoes_of_sourceAll rest hrest)
end

/-! ### What an echo keeps -/

theorem Leaves.bare_eq {processors : List Processor} {block left : ParsedBlock}
    (h : Leaves name postId processors block left) : left.bare = block.bare := by
  induction h with
  | untouched => rfl
  | processed sourced metadata spoilt _ ih => rw [ih, ParsedBlock.bare_withAttrsAt]

theorem Leaves.eq_of_keepsExplicit {processors : List Processor} {block left : ParsedBlock}
    (h : Leaves name postId processors block left) (hq : ∀ q ∈ processors, q.KeepsExplicit) :
    left = block := by
  induction h with
  | untouched => rfl
  | processed sourced metadata spoilt _ ih =>
    obtain ⟨hfirst, hrest⟩ := List.forall_mem_cons.mp hq
    rw [ih hrest, hfirst, ParsedBlock.withAttrsAt_attrsAt]

mutual
/-- Names, HTML and nesting are as they were parsed. -/
theorem bare_of_echoes : ∀ (b : ParsedBlock) {left : ParsedBlock}, plan.Echoes b left →
    left.bare = b.bare
  | _, _, .turnedDown _ => rfl
  | .mk name attrs html inner, left, .entered _ hinner hleft => by
    rw [hleft.bare_eq, ParsedBlock.withInner, ParsedBlock.bare, ParsedBlock.bare,
      bareList_of_echoes inner hinner]

theorem bareList_of_echoes : ∀ (bs : List ParsedBlock) {left : List ParsedBlock},
    List.Forall₂ plan.Echoes bs left → ParsedBlock.bareList left = ParsedBlock.bareList bs
  | [], _, .nil => rfl
  | b :: rest, _, .cons h hrest => by
    rw [ParsedBlock.bareList, ParsedBlock.bareList, bare_of_echoes b h,
      bareList_of_echoes rest hrest]
end

mutual
/-- Without changes in place, blocks are as they were parsed. -/
theorem eq_of_echoes (hq : ∀ q ∈ plan.hooks.processors, q.KeepsExplicit) :
    ∀ (b : ParsedBlock) {left : ParsedBlock}, plan.Echoes b left → left = b
  | _, _, .turnedDown _ => rfl
  | .mk name attrs html inner, left, .entered _ hinner hleft => by
    rw [hleft.eq_of_keepsExplicit hq, eqAll_of_echoes hq inner hinner]
    rfl

theorem eqAll_of_echoes (hq : ∀ q ∈ plan.hooks.processors, q.KeepsExplicit) :
    ∀ (bs : List ParsedBlock) {left : List ParsedBlock}, List.Forall₂ plan.Echoes bs left →
      left = bs
  | [], _, .nil => rfl
  | b :: rest, _, .cons h hrest => by
    rw [eq_of_echoes hq b h, eqAll_of_echoes hq rest hrest]
end

end SourcingPlan
end EditorBlocks
