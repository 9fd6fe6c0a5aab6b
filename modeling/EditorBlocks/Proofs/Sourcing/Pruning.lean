import EditorBlocks.Proofs.Attribute.Merge
import EditorBlocks.Proofs.Block.Places
import EditorBlocks.Proofs.Sourcing.Forest
import EditorBlocks.Proofs.Sourcing.Runs
import EditorBlocks.Session.Parser
/-! Sourcing with predicates alone: the forest of a result is the tokenized forest, pruned, and each
block in it is completed by itself. -/

namespace EditorBlocks

/-- The answers of a predicate that neither fails nor changes anything. -/
abbrev Answer := (included : Bool) → (name : Option String) → ParsedBlock → Value

def Predicate.ofAnswer (answer : Answer) : Predicate :=
  fun included name block => .ok (answer included name block)

/-- What a filter and then answers make of a block. Each answer is given the truth of the one
before, and the truth of the last one counts. -/
def admits (filter : BlockFilter) (answers : List Answer) (b : ParsedBlock) : Bool :=
  answers.foldl (fun included answer => (answer included b.name b).isTruthy) (filter.allows b.name)

namespace SourcingPlan

/-- The attributes that sourcing gives to a block, from its own explicit attributes and HTML, the
definitions of its type and the data of the post. -/
def settledAttributes (data : PostData) (definitions : List (String × AttributeDefinition))
    (block : ParsedBlock) : List (String × Value) :=
  match (sourceAttributes data block definitions).outcome with
  | .ok merged => Entries.mapValues (Held.settle ⟨data.metadata, block.attrsAt⟩) merged
  | .error _ => []

/-- The hooks of a plan are predicates that only decide. -/
structure OnlyDecides (plan : SourcingPlan) (answers : List Answer) :
    Prop where
  predicates : plan.hooks.predicates = answers.map Predicate.ofAnswer
  processors : plan.hooks.processors = []

section Plain
variable {plan : SourcingPlan} {answers : List Answer} {j : Journal}

theorem ends_decision_ofAnswer (name : Option String) (block : ParsedBlock) (number : Nat)
    (included : Bool) :
    ∃ i, (decision name block number included (answers.map Predicate.ofAnswer)).ends j =
        (.ok (answers.foldl (fun included answer => (answer included name block).isTruthy) included),
          i) ∧
      i.metadata = j.metadata := by
  induction answers generalizing number included j with
  | nil => exact ⟨j, rfl, rfl⟩
  | cons answer rest ih =>
    rw [List.map_cons, ends_decision_cons]
    exact ih (j := j.called (.decided number included name block)) (number + 1) _

theorem ends_isIncluded (hp : plan.OnlyDecides answers) (block : ParsedBlock) :
    ∃ i, (plan.isIncluded block).ends j = (.ok (admits plan.filter answers block), i) ∧
      i.metadata = j.metadata := by
  rw [isIncluded, hp.predicates]
  exact ends_decision_ofAnswer block.name block 0 _

theorem admitted_eq (hp : plan.OnlyDecides answers) (block : ParsedBlock) :
    plan.admitted block = admits plan.filter answers block := by
  obtain ⟨i, hi, -⟩ := ends_isIncluded (j := .start .empty) hp block
  obtain ⟨calls, hcalls⟩ := plan.ends_isIncluded_verdict block (.start .empty)
  rw [hi] at hcalls
  rw [admitted, ← (Prod.mk.inj hcalls).1]

/-- What is told for the blocks of a parse: their own attributes, and the debug data of their types
if it is wanted. -/
def ownAttributes (plan : SourcingPlan) (metadata : Metadata) (block : ParsedBlock) :
    List (String × Value) :=
  settledAttributes ⟨metadata, plan.postId⟩ (plan.definitionsOf block.name) block

def ownDebug (plan : SourcingPlan) (name : Option String) : Option (List (String × Value)) :=
  if plan.debug then some (debugData (plan.typeOf name)) else none

/-- What is told for a block does not ask for the blocks inside. -/
theorem settledAttributes_congr {data : PostData} {definitions : List (String × AttributeDefinition)}
    {b b' : ParsedBlock} (hattrs : b.attrs = b'.attrs) (hhtml : b.html = b'.html) :
    settledAttributes data definitions b = settledAttributes data definitions b' := by
  have hsame : sourceAttributes data b definitions = sourceAttributes data b' definitions := by
    rw [sourceAttributes, sourceAttributes, hattrs, hhtml]
  rw [settledAttributes, settledAttributes, hsame]
  cases h : (sourceAttributes data b' definitions).outcome with
  | error e => rfl
  | ok merged => exact settle_sourced_congr h hattrs

theorem ownAttributes_withInner (metadata : Metadata) (block : ParsedBlock)
    (inner : List ParsedBlock) :
    plan.ownAttributes metadata (block.withInner inner) = plan.ownAttributes metadata block := by
  cases block
  exact settledAttributes_congr rfl rfl

/-- A sourced block that no processor has seen is settled from its own data. -/
theorem settle_settled {metadata : Metadata} {block : ParsedBlock} {merged : List (String × Held)}
    (innerSourced : List Draft)
    (h : (plan.attributesOf metadata block).outcome = .ok merged) :
    (settled (plan.draftOf block.name merged innerSourced)).settle ⟨metadata, block.attrsAt⟩ =
      .mk block.name (some (plan.ownAttributes metadata block))
        (innerSourced.map (Draft.settle ⟨metadata, block.attrsAt⟩)) (plan.ownDebug block.name) := by
  have hvalues : plan.ownAttributes metadata block =
      Entries.mapValues (Held.settle ⟨metadata, block.attrsAt⟩) merged := by
    rw [ownAttributes, settledAttributes]
    change (match (plan.attributesOf metadata block).outcome with
      | .ok merged => _
      | .error _ => _) = _
    rw [h]
  rw [hvalues]
  simp only [settled, draftOf, Block.attributes, Option.getD_some, Block.withAttributes,
    Draft.settle, Block.mapValues, Option.map_some, Block.mapValuesOfList_eq_map]
  rfl

mutual
theorem source_plain (hp : plan.OnlyDecides answers) :
    ∀ (b : ParsedBlock) {j j' : Journal} {parsed : ParsedBlock} {draft? : Option Draft},
      (plan.source b).ends j = (.ok (parsed, draft?), j') →
      j'.metadata = j.metadata ∧
        draft?.toList.map (Draft.settle ⟨j.metadata, b.attrsAt⟩) =
          ParsedBlock.completedList (plan.ownAttributes j.metadata) plan.ownDebug
            (b.pruned (admits plan.filter answers)).toList
  | .mk name attrs html inner, j, j', parsed, draft?, h => by
    rw [ParsedBlock.pruned, ← admitted_eq hp]
    obtain ⟨calls, ⟨hadmitted, -, rfl, rfl⟩ | ⟨hadmitted, merged, innerParsed, innerSourced, processed,
      k, hmerged, hinner, hprocess, rfl⟩⟩ := source_cases h
    · rw [hadmitted]
      exact ⟨rfl, rfl⟩
    · have hentered : (plan.attributed (.mk name attrs html inner) (j.calledAll calls)).metadata =
          j.metadata := lookedUp_metadata
      obtain ⟨hk, hdrafts⟩ :=
        sourceAll_plain hp inner (ParsedBlock.areOf_attrsAt (.mk name attrs html inner)) hinner
      rw [hentered] at hk hdrafts
      simp only [hp.processors, process, Sourcing.ends_pure] at hprocess
      cases hprocess
      have hown : plan.ownAttributes j.metadata (.mk name attrs html []) =
          plan.ownAttributes j.metadata (.mk name attrs html inner) :=
        ownAttributes_withInner j.metadata (.mk name attrs html inner) []
      have hsettled := settle_settled innerSourced hmerged
      refine ⟨hk, ?_⟩
      rw [if_pos hadmitted, Option.toList_some, Option.toList_some, List.map_singleton,
        ParsedBlock.completedList, ParsedBlock.completed, hown, ← hdrafts]
      exact congrArg (fun d => [d]) hsettled

theorem sourceAll_plain (hp : plan.OnlyDecides answers) :
    ∀ (bs : List ParsedBlock) {number : Nat} {attrs : PlacedAttrs} {j j' : Journal}
      {parsed : List ParsedBlock} {drafts : List Draft}, attrs.AreOf number bs →
      (plan.sourceAll number bs).ends j = (.ok (parsed, drafts), j') →
      j'.metadata = j.metadata ∧
        drafts.map (Draft.settle ⟨j.metadata, attrs⟩) =
          ParsedBlock.completedList (plan.ownAttributes j.metadata) plan.ownDebug
            (ParsedBlock.prunedList (admits plan.filter answers) bs)
  | [], number, attrs, j, j', parsed, drafts, _, h => by
    rw [ends_sourceAll_nil] at h
    cases h
    exact ⟨rfl, rfl⟩
  | b :: rest, number, attrs, j, j', parsed, drafts, ⟨hb, hbs⟩, h => by
    obtain ⟨_, draft?, _, _, i, hfirst, hrest, -, rfl⟩ := sourceAll_cons_cases h
    obtain ⟨hi, hd⟩ := source_plain hp b hfirst
    obtain ⟨hk, hds⟩ := sourceAll_plain hp rest hbs hrest
    rw [hi] at hk hds
    rw [ParsedBlock.prunedList, ParsedBlock.completedList_append, List.map_append, hds,
      Draft.settle_within_toList, Shared.inside, hb, hd]
    exact ⟨hk, rfl⟩
end

end Plain

end SourcingPlan
end EditorBlocks
