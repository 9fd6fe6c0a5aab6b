import EditorBlocks.Proofs.Session.Admission
import EditorBlocks.Proofs.Sourcing.Debug
/-! Parses with debug data and without it: they have the same outcome but for that data, as long as
the data can be made. -/

namespace EditorBlocks

/-- A result without debug data. -/
def ParseResult.stripped (result : ParseResult) : ParseResult :=
  ⟨result.blocks.map Block.stripped, result.warnings, none⟩

/-- The definitions of every registered type can be shown. -/
def Registry.CanShow (registry : Registry) : Prop := ∀ e ∈ registry.types, e.2.isShowable

namespace Parser
open Sourcing
variable {p : Parser} {r : Request} {i j : Journal} {on : Bool}

/-- A parser that tells debug data, or does not. -/
def withDebug (p : Parser) (debug : Bool) : Parser :=
  { p with settings := { p.settings with debug := debug } }

/-- A parser with a processor that adds to a list in place, and one that puts blocks in reverse. -/
def annotating : Parser :=
  { reading [.mk (some "core/group") [("tags", .list [])] "" [newsParagraph, .mk none [] "" []]]
      [] with
    hooks := ⟨[], [(ProcessorRule.append "tags" (.str "late")).toProcessor,
      ProcessorRule.reverseInner.toProcessor]⟩ }

/-- Lists inside one another, so many around the innermost one. -/
def nested : Nat → Value
  | 0 => .list []
  | n + 1 => .list [nested n]

end Parser
end EditorBlocks
