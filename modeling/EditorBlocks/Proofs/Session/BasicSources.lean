import EditorBlocks.Proofs.Attribute.BasicSources
import EditorBlocks.Proofs.Session.Admission
import EditorBlocks.Proofs.Session.Redefined
/-! Parses by basic sources: a registry that reads properties as attributes, and rich text as HTML,
makes no difference to a parse without debug data. -/

namespace EditorBlocks

theorem AttributeDefinition.basic_interchangeable (d : AttributeDefinition) :
    d.basic.Interchangeable d where
  resolve data s := resolve_basic data d s
  isSourced := by
    cases d
    exact AttributeRule.basic_source_isSome
  fallbackValue := by
    cases d
    exact AttributeRule.basic_fallbackValue

/-- The registry with basic sources in all definitions, at any depth of their queries. -/
def Registry.basic (r : Registry) : Registry := r.redefined AttributeDefinition.basic

namespace Parser

/-- Properties and attributes are interchangeable, and so are rich text and HTML without lines, in
definitions at any depth. Each definition resolves in any scope to the same value, or fails with the
same error; each parse has the same outcome, with the same calls of hooks and the same notes. -/
theorem parse_basic {p : Parser} (hdebug : p.settings.debug = false) :
    (∀ (d : AttributeDefinition) (data : PostData) (s : Scope),
      d.basic.resolve data s = d.resolve data s) ∧
    ∀ (r : Request) (j : Journal),
      ({ p with registry := p.registry.basic } : Parser).parse r j = p.parse r j :=
  ⟨fun d data s => AttributeDefinition.resolve_basic data d s,
    parse_redefined AttributeDefinition.basic_interchangeable hdebug⟩

/-- Links with their targets and labels, as two sources have them. -/
def linkList (target label : AttributeSource) (lines : Option String) : BlockType :=
  ⟨"core/links", [("links", .ofQuery "li" [
    ("target", .mk ⟨some target, some "a", some "href", none, none, .null, []⟩ none),
    ("label", .mk ⟨some label, some "a", none, lines, none, .str "?", []⟩ none)])]⟩

/-- A parser of links by properties and rich text. -/
def linking : Parser :=
  { reading [.mk (some "core/links") [] "<ul><li><a href=\"/a\"><b>A</b></a></li><li></li></ul>" []]
    [] with registry := .ofTypes [linkList .property .richText (some "b[")] }

theorem linking_basic : linking.registry.basic = .ofTypes [linkList .attr .html none] ∧
    ∃ result, (linking.parse pageRequest (.start .empty)).1 = .ok result ∧
      (({ linking with registry := linking.registry.basic } : Parser).parse pageRequest
        (.start .empty)).1 = .ok result := by
  have hparsed : (linking.parse pageRequest (.start .empty)).1.isOk := by decide +kernel
  obtain ⟨result, hresult⟩ := exists_result hparsed
  have hdebug : linking.settings.debug = false := rfl
  refine ⟨rfl, result, hresult, ?_⟩
  rw [(parse_basic hdebug).2 pageRequest (.start .empty), hresult]

end Parser
end EditorBlocks
