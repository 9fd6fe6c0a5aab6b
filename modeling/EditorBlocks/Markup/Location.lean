import EditorBlocks.Markup.Node
/-!
Locations: a node of a document together with its surroundings. Elements that look alike but stand
at different places are different locations, told apart by their paths.
-/

namespace EditorBlocks

/-- The whole document, or a node with its earlier siblings, nearest first, and its later ones. -/
inductive Location
  | top (document : Document)
  | inside (parent : Location) (before : List Node) (node : Node) (after : List Node)
  deriving Repr

namespace Location

/-- The numbers of earlier siblings on the way from the top. -/
def path : Location → List Nat
  | top _ => []
  | inside parent before _ _ => parent.path ++ [before.length]

/-- Whether two locations of one document are the same. -/
def same (a b : Location) : Bool := a.path == b.path

def node? : Location → Option Node
  | top _ => none
  | inside _ _ node _ => some node

def tag? : Location → Option Tag
  | inside _ _ (.element tag _) _ => some tag
  | _ => none

def isElement (l : Location) : Bool := l.tag?.isSome

def parent? : Location → Option Location
  | top _ => none
  | inside parent _ _ _ => some parent

def childNodes : Location → List Node
  | top document => document.nodes
  | inside _ _ node _ => node.children

/-- The places of a run of siblings, given the ones before them. -/
def places (parent : Location) (before : List Node) : List Node → List Location
  | [] => []
  | node :: after => inside parent before node after :: places parent (node :: before) after

/-- The places of the nodes directly inside, in order. -/
def children (l : Location) : List Location := places l [] l.childNodes

mutual
/-- The places of the elements below a location whose node is given, in document order. -/
def elementsBelow (here : Location) : Node → List Location
  | .element _ children => elementsAmong here [] children
  | _ => []

def elementsAmong (parent : Location) (before : List Node) : List Node → List Location
  | [] => []
  | node :: after =>
    let here := inside parent before node after
    let rest := elementsAmong parent (node :: before) after
    if node.isElement then here :: (elementsBelow here node ++ rest) else rest
end

/-- The elements strictly inside, in document order. -/
def descendants (l : Location) : List Location := elementsAmong l [] l.childNodes

/-- The enclosing locations, nearest first; the document is the last. -/
def ancestors : Location → List Location
  | top _ => []
  | inside parent _ _ _ => parent :: parent.ancestors

/-- The earlier siblings that are elements, nearest first. -/
def elementsBefore : Location → List Location
  | top _ => []
  | inside parent before node after => go parent (node :: after) before
where
  go (parent : Location) (after : List Node) : List Node → List Location
    | [] => []
    | node :: before =>
      let rest := go parent (node :: after) before
      if node.isElement then inside parent before node after :: rest else rest

/-- The later siblings that are elements, nearest first. -/
def elementsAfter : Location → List Location
  | top _ => []
  | inside parent before node after =>
    (places parent (node :: before) after).filter isElement

/-- The elements of the same parent, itself included, in order. -/
def elementSiblings : Location → List Location
  | top document => [top document]
  | inside parent before node after =>
    (inside parent before node after).elementsBefore.reverse
      ++ inside parent before node after :: (inside parent before node after).elementsAfter

/-- The value of the first attribute whose name is this one in lower case. -/
def attribute? (l : Location) (name : String) : Option String := l.tag?.bind (·.attribute? name)

end Location

/-- The element that holds the content of the fragment, if the document has one. -/
def Document.body? (document : Document) : Option Location :=
  (Location.top document).descendants.find? fun l => l.tag?.any (·.name == "body")

end EditorBlocks
