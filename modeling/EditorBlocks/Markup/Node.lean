/-!
Nodes of a document: elements in three vocabularies, text and comments.
-/

namespace EditorBlocks

/-- The vocabulary of an element. -/
inductive Vocabulary
  | html
  | svg
  | math
  deriving DecidableEq, Repr

/-- An element without its content. Names keep the case of the tree, attributes their order. -/
structure Tag where
  vocabulary : Vocabulary
  name : String
  attributes : List (String × String)
  deriving DecidableEq, Repr

inductive Node
  | element (tag : Tag) (children : List Node)
  | text (data : String)
  | comment (data : String)
  deriving Repr

namespace Tag

def attribute? (tag : Tag) (name : String) : Option String :=
  (tag.attributes.find? fun a => a.1 == name).map (·.2)

end Tag

namespace Node

def children : Node → List Node
  | element _ children => children
  | _ => []

def isElement : Node → Bool
  | element .. => true
  | _ => false

def tag? : Node → Option Tag
  | element tag _ => some tag
  | _ => none

mutual
/-- All text inside a node in document order, comments left out. -/
def textChars : Node → List Char
  | element _ children => textCharsOfList children
  | text data => data.toList
  | comment _ => []

def textCharsOfList : List Node → List Char
  | [] => []
  | node :: rest => textChars node ++ textCharsOfList rest
end

/-- Elements whose text is set apart from the running text: they have none of their own. -/
def hasSeparateText (tag : Tag) : Bool :=
  ["rt", "rp", "style", "script", "template"].contains tag.name

/-- The text that an element shows when asked for it. -/
def textContent : Node → String
  | element tag children =>
    if hasSeparateText tag then "" else String.ofList (textCharsOfList children)
  | text data => data
  | comment _ => ""

end Node

/-- A document: the comments and the one root element at its top. -/
structure Document where
  nodes : List Node
  deriving Repr

end EditorBlocks
