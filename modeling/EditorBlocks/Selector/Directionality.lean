import EditorBlocks.Markup.Location
import EditorBlocks.Text.Direction
import EditorBlocks.Text.Lowercase
/-!
The direction in which the text of an element runs: as declared, as its text has it, or as its
parent has it.
-/

namespace EditorBlocks.Selector
open Text (Direction)

/-- What a `dir` attribute says. -/
inductive DeclaredDirection
  | fixed (direction : Direction)
  | fromText
  deriving DecidableEq

def declaredDirection? (tag : Tag) : Option DeclaredDirection :=
  match (tag.attribute? "dir").map Text.lowerAscii with
  | some "ltr" => some (.fixed .leftToRight)
  | some "rtl" => some (.fixed .rightToLeft)
  | some "auto" => some .fromText
  | _ => none

/-- Elements whose text does not count for the element around them. -/
def isSetApart (tag : Tag) : Bool :=
  ["bdi", "script", "style", "textarea", "iframe"].contains tag.name
    || tag.vocabulary != .html || (declaredDirection? tag).isSome

mutual
/-- The direction of the first character inside that has one. -/
def textDirection? : Node → Option Direction
  | .element tag children => if isSetApart tag then none else childrenDirection? children
  | .text data => Text.firstDirection? data.toList
  | .comment _ => none

def childrenDirection? : List Node → Option Direction
  | [] => none
  | node :: rest => (textDirection? node).orElse fun _ => childrenDirection? rest
end

/-- The text that a form control lets the user edit, if it is such a control. -/
def editedText? (tag : Tag) (children : List Node) : Option String :=
  if tag.name == "textarea" then
    some (String.join (children.filterMap fun | .text data => some data | _ => none))
  else if tag.name == "input" && ["text", "search", "tel", "url", "email"].contains
      (Text.lowerAscii ((tag.attribute? "type").getD "")) then
    some ((tag.attribute? "value").getD "")
  else none

/-- The direction of an element of HTML; others have none. -/
def directionOf? : Location → Option Direction
  | .top _ => none
  | .inside parent _ (.element tag children) _ =>
    let isRoot := parent.parent?.isNone
    let inherited := if isRoot then some .leftToRight else directionOf? parent
    let fromContent := (childrenDirection? children).orElse fun _ => inherited
    if tag.vocabulary != .html then none
    else match declaredDirection? tag with
      | some (.fixed direction) => some direction
      | some .fromText =>
        match editedText? tag children with
        | some "" => inherited
        | some text => some ((Text.firstDirection? text.toList).getD .leftToRight)
        | none => fromContent
      | none =>
        if isRoot then some .leftToRight
        else if tag.name == "input"
            && (tag.attribute? "type").map Text.lowerAscii == some "tel" then
          some .leftToRight
        else if tag.name == "bdi" then fromContent
        else inherited
  | .inside .. => none

end EditorBlocks.Selector
