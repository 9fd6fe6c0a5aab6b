import EditorBlocks.Proofs.Session.Admission
import EditorBlocks.Proofs.Session.Classification
import EditorBlocks.Proofs.Session.Debug
import EditorBlocks.Proofs.Sourcing.Selectors
/-! What makes a parse fail when its hooks only decide. -/

namespace EditorBlocks
namespace Parser

section Plain
variable {p : Parser} {r : Request} {answers : List Answer} {tokens : List ParsedBlock}

end Plain

end Parser
end EditorBlocks
