import EditorBlocks.Proofs.Session.Runs
import EditorBlocks.Proofs.Sourcing.Redefined
/-! Parses by other definitions: as long as they resolve alike, and debug data shows them alike, a
parse ends in the same way. -/

namespace EditorBlocks.Parser
variable {p : Parser} {f : AttributeDefinition → AttributeDefinition}

/-- The parser with other definitions. -/
def redefined (f : AttributeDefinition → AttributeDefinition) (p : Parser) : Parser :=
  { p with registry := p.registry.redefined f }

theorem parseBlocks_redefined (hf : ∀ d, (f d).Interchangeable d) (r : Request)
    (hshown : ∀ name, ((p.plan r).redefined f).shownFor name = (p.plan r).shownFor name) :
    (p.redefined f).parseBlocks r = p.parseBlocks r := by
  have hsourced : ((p.redefined f).plan r).sourceAll = (p.plan r).sourceAll :=
    funext fun number => funext fun bs => SourcingPlan.sourceAll_redefined hf hshown bs number
  rw [parseBlocks, parseBlocks, hsourced]
  rfl

/-- A parse by interchangeable definitions ends as before, and leaves the same journal, if they are
shown in the same way. -/
theorem parse_redefined_of_shown (hf : ∀ d, (f d).Interchangeable d) (r : Request)
    (hshown : ∀ name, ((p.plan r).redefined f).shownFor name = (p.plan r).shownFor name)
    (j : Journal) : (p.redefined f).parse r j = p.parse r j := by
  have hrefusal : (p.redefined f).refusal? r = p.refusal? r := rfl
  have hbegun : (p.redefined f).begun j = p.begun j := rfl
  have hrecorded : (p.redefined f).recordUse j = p.recordUse j := rfl
  rw [parse_eq, parse_eq, hrefusal, hbegun, hrecorded, parseBlocks_redefined hf r hshown]

/-- Without debug data nothing shows the definitions. -/
theorem parse_redefined (hf : ∀ d, (f d).Interchangeable d) (hdebug : p.settings.debug = false)
    (r : Request) (j : Journal) : (p.redefined f).parse r j = p.parse r j :=
  parse_redefined_of_shown hf r (fun _ => SourcingPlan.shownFor_redefined hdebug) j

end EditorBlocks.Parser
