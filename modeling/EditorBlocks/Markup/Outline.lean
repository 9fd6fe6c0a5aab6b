import EditorBlocks.Data.Value
import EditorBlocks.Markup.Node
import EditorBlocks.Text.Blank
/-!
Outlines: nodes as plain data. An element becomes its name and the outlines of its children, text
is trimmed, and what is blank or a comment is left out.
-/

namespace EditorBlocks.Node

mutual
/-- The outline of a node, if it has one. -/
def outline? : Node → Option Value
  | element tag children =>
    some (.object [("type", .str tag.name), ("children", .list (outlines children))])
  | text data => if Text.trim data = "" then none else some (.str (Text.trim data))
  | comment _ => none

/-- The outlines of the nodes that have one, in order. -/
def outlines : List Node → List Value
  | [] => []
  | node :: rest =>
    match outline? node with
    | some value => value :: outlines rest
    | none => outlines rest
end

end EditorBlocks.Node
