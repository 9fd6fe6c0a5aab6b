import EditorBlocks.Markup.Escape
import EditorBlocks.Markup.Node
import EditorBlocks.Text.Blank
import EditorBlocks.Text.Lowercase
/-!
Writing nodes as HTML. Three decisions of the format: which elements are void, where text stays
literal, and that a declared encoding is always the one of the output.
-/

namespace EditorBlocks.Markup

/-- Elements that print no end tag when they have no content. -/
def voidNames : List String := [
  "area", "base", "br", "col", "embed", "hr", "img", "input", "keygen", "link", "menuitem", "meta",
  "param", "source", "track", "wbr", "basefont", "bgsound", "command", "frame", "image", "isindex",
  "nextid", "spacer"]

/-- Elements whose own text is printed as it is. -/
def literalNames : List String := ["script", "style"]

/-- The encoding of the output, which a declaration in the document is made to name. -/
def outputEncoding : String := "utf-8"

/-- Puts the output encoding after each `charset=` that begins a parameter; `fresh` says that a
parameter may begin here, `skipping` that the old encoding is being left out. -/
def substituteCharset (fresh skipping : Bool) : List Char → List Char
  | [] => []
  | c :: rest =>
    if skipping then
      if c == ';' then c :: substituteCharset true false rest
      else substituteCharset false true rest
    else if fresh && "charset=".toList.isPrefixOf (c :: rest) then
      "charset=".toList ++ outputEncoding.toList ++ substituteCharset false true (rest.drop 7)
    else c :: substituteCharset (c == ';' || Text.isBlank c) false rest
  termination_by cs => cs.length
  decreasing_by all_goals (simp only [List.length_drop, List.length_cons]; omega)

/-- The value that an attribute prints: the encoding that a `meta` element declares is replaced. -/
def printedValue (tag : Tag) (name value : String) : String :=
  if tag.name != "meta" then value
  else if (tag.attribute? "charset").isSome then
    if name == "charset" then outputEncoding else value
  else if name == "content"
      && (tag.attribute? "http-equiv").any fun v => Text.lower v == "content-type" then
    String.ofList (substituteCharset true false value.toList)
  else value

def attributeChars (tag : Tag) (entry : String × String) : List Char :=
  ' ' :: (entry.1.toList ++ '=' :: '"'
    :: (escapeValueChars (printedValue tag entry.1 entry.2).toList ++ ['"']))

def startTagChars (tag : Tag) : List Char :=
  '<' :: (tag.name.toList ++ tag.attributes.flatMap (attributeChars tag) ++ ['>'])

def endTagChars (tag : Tag) : List Char := '<' :: '/' :: (tag.name.toList ++ ['>'])

def isLiteral (tag : Tag) : Bool := literalNames.contains tag.name
def isVoid (tag : Tag) : Bool := voidNames.contains tag.name

mutual
/-- A node as HTML; `literal` says that its parent keeps text as it is. -/
def nodeChars (literal : Bool) : Node → List Char
  | .text data => if literal then data.toList else escapeTextChars data.toList
  | .comment data => "<!--".toList ++ data.toList ++ "-->".toList
  | .element tag children =>
    if children.isEmpty && isVoid tag then startTagChars tag
    else startTagChars tag ++ nodesChars (isLiteral tag) children ++ endTagChars tag

def nodesChars (literal : Bool) : List Node → List Char
  | [] => []
  | node :: rest => nodeChars literal node ++ nodesChars literal rest
end

/-- The content of an element as HTML. -/
def innerHtml : Node → String
  | .element tag children => String.ofList (nodesChars (isLiteral tag) children)
  | _ => ""

/-- An element with its tags as HTML. -/
def outerHtml (node : Node) : String := String.ofList (nodeChars false node)

end EditorBlocks.Markup
