import EditorBlocks.Proofs.Sourcing.Runs
/-! Sourcing by other definitions: as long as they resolve alike, blocks are sourced alike. Only debug
data can tell the definitions apart. -/

namespace EditorBlocks

/-- Definitions that do the same in any scope. One without a source only has its fallback. -/
structure AttributeDefinition.Interchangeable (d e : AttributeDefinition) : Prop where
  resolve : ∀ data s, d.resolve data s = e.resolve data s
  isSourced : d.isSourced = e.isSourced
  fallbackValue : d.rule.fallbackValue = e.rule.fallbackValue

/-- The block type with other definitions of its attributes. -/
def BlockType.redefined (f : AttributeDefinition → AttributeDefinition) (t : BlockType) :
    BlockType :=
  { t with attributes := Entries.mapValues f t.attributes }

def Registry.redefined (f : AttributeDefinition → AttributeDefinition) (r : Registry) : Registry :=
  ⟨Entries.mapValues (BlockType.redefined f) r.types⟩

namespace SourcingPlan

def redefined (f : AttributeDefinition → AttributeDefinition) (plan : SourcingPlan) :
    SourcingPlan :=
  { plan with registry := plan.registry.redefined f }

section Redefined
variable {f : AttributeDefinition → AttributeDefinition} {plan : SourcingPlan}
  {name : Option String}

theorem typeOf_redefined :
    (plan.redefined f).typeOf name = (plan.typeOf name).map (BlockType.redefined f) := by
  cases name with
  | none => rfl
  | some name => exact Entries.find?_mapValues _ _ _

theorem definitionsOf_redefined :
    (plan.redefined f).definitionsOf name = Entries.mapValues f (plan.definitionsOf name) := by
  rw [definitionsOf, definitionsOf, typeOf_redefined]
  cases plan.typeOf name <;> rfl

theorem lookUp_redefined : (plan.redefined f).lookUp name = plan.lookUp name := by
  rw [lookUp, lookUp, typeOf_redefined, Option.isNone_map]
  rfl

/-- The debug data that sourcing makes for a name, or the fault with which it fails. -/
def shownFor (plan : SourcingPlan) (name : Option String) :
    Except Fault (Option (List (String × Value))) :=
  plan.shown (plan.typeOf name)

theorem shownFor_of_not_debug (hdebug : plan.debug = false) : plan.shownFor name = .ok none := by
  rw [shownFor, shown, hdebug]
  rfl

theorem shownFor_redefined (hdebug : plan.debug = false) :
    (plan.redefined f).shownFor name = plan.shownFor name := by
  have hredefined : (plan.redefined f).debug = false := hdebug
  rw [shownFor_of_not_debug hdebug, shownFor_of_not_debug hredefined]

variable (hf : ∀ d, (f d).Interchangeable d)
include hf

theorem sourceEach_redefined (data : PostData) (s : Scope)
    (definitions : List (String × AttributeDefinition)) (attributes : List (String × Held)) :
    sourceEach data s (Entries.mapValues f definitions) attributes =
      sourceEach data s definitions attributes := by
  induction definitions generalizing attributes with
  | nil => rfl
  | cons e rest ih =>
    obtain ⟨name, d⟩ := e
    change sourceEach data s ((name, f d) :: Entries.mapValues f rest) attributes = _
    simp only [sourceEach, (hf d).resolve, (hf d).isSourced, (hf d).fallbackValue, ih]

theorem attributesOf_redefined (metadata : Metadata) (block : ParsedBlock) :
    (plan.redefined f).attributesOf metadata block = plan.attributesOf metadata block := by
  rw [attributesOf, attributesOf, definitionsOf_redefined]
  exact sourceEach_redefined hf _ _ _ _

theorem sourceAdmitted_redefined
    (hshown : ∀ name, (plan.redefined f).shownFor name = plan.shownFor name) (block : ParsedBlock)
    (hinner : (plan.redefined f).sourceAll 0 block.inner = plan.sourceAll 0 block.inner) :
    (plan.redefined f).sourceAdmitted block = plan.sourceAdmitted block := by
  have hdebug := hshown block.name
  rw [shownFor, shownFor] at hdebug
  rw [sourceAdmitted, sourceAdmitted, hinner, hdebug]
  simp only [attributesOf_redefined hf]
  rfl

omit hf

mutual
theorem source_redefined (hf : ∀ d, (f d).Interchangeable d)
    (hshown : ∀ name, (plan.redefined f).shownFor name = plan.shownFor name) :
    ∀ b : ParsedBlock, (plan.redefined f).source b = plan.source b
  | .mk name attrs html inner => by
    have hadmitted := sourceAdmitted_redefined hf hshown (.mk name attrs html inner)
      (sourceAll_redefined hf hshown inner 0)
    rw [source_eq, source_eq, lookUp_redefined, hadmitted]
    rfl

/-- A forest is sourced as by the other definitions: with the same calls, notes, warnings, faults and
blocks. Debug data must not tell the definitions apart. -/
theorem sourceAll_redefined (hf : ∀ d, (f d).Interchangeable d)
    (hshown : ∀ name, (plan.redefined f).shownFor name = plan.shownFor name) :
    ∀ (bs : List ParsedBlock) (number : Nat),
      (plan.redefined f).sourceAll number bs = plan.sourceAll number bs
  | [], number => by rw [sourceAll, sourceAll]
  | b :: rest, number => by
    rw [sourceAll, sourceAll, source_redefined hf hshown b, sourceAll_redefined hf hshown rest]
end

end Redefined

end SourcingPlan
end EditorBlocks
