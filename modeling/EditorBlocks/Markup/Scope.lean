import EditorBlocks.Markup.Read
import EditorBlocks.Markup.Serialize
import EditorBlocks.Selector.Matching
import EditorBlocks.Selector.Read
/-!
Scopes: the elements of a fragment that reading starts from, in the order in which they were
found. A scope is narrowed by selectors and read through its first element.
-/

namespace EditorBlocks

structure Scope where
  places : List Location

namespace Scope

/-- The scope of a fragment: the element that holds it. -/
def ofFragment (html : String) : Scope := ⟨(Document.ofFragment html).body?.toList⟩

/-- Keeps the first of the places that are the same. -/
def distinct (places : List Location) : List Location :=
  places.foldl (fun kept l => if kept.any (·.same l) then kept else kept ++ [l]) []

/-- The elements inside the scope that a list selects, asked of each place in turn. -/
def narrow (s : Scope) (list : SelectorList) : Scope :=
  ⟨distinct (s.places.flatMap (·.select list))⟩

/-- Narrows by a selector text. Nothing is read of the text when there is no place to ask. -/
def filter (s : Scope) (selector : String) : Except SelectorError Scope :=
  if s.places.isEmpty then .ok s else (SelectorList.read selector).map s.narrow

def count (s : Scope) : Nat := s.places.length

def first? (s : Scope) : Option Location := s.places.head?

def tags (s : Scope) : List Tag := s.places.filterMap (·.tag?)

/-- The value of an attribute of the first element. -/
def attribute? (s : Scope) (name : String) : Option String := s.first?.bind (·.attribute? name)

/-- The text of the first element as it stands. -/
def rawText? (s : Scope) : Option String := (s.first?.bind (·.node?)).map (·.textContent)

/-- The text of the first element with its spacing normalized. -/
def text? (s : Scope) : Option String := s.rawText?.map Text.normalizeSpacing

def innerHtml? (s : Scope) : Option String := (s.first?.bind (·.node?)).map Markup.innerHtml

def outerHtml? (s : Scope) : Option String := (s.first?.bind (·.node?)).map Markup.outerHtml

/-- The name of the first element in small letters. -/
def tagName? (s : Scope) : Option String :=
  (s.first?.bind (·.tag?)).map fun tag => Text.lower tag.name

/-- One scope for each place. -/
def each (s : Scope) : List Scope := s.places.map fun l => ⟨[l]⟩

/-- The nodes directly inside the first element, text and comments included. -/
def childNodes (s : Scope) : List Node := (s.first?.map (·.childNodes)).getD []

/-- The elements directly inside the first element. -/
def children (s : Scope) : Scope := ⟨((s.first?.map (·.children)).getD []).filter (·.isElement)⟩

/-- A short description: the names of at most five elements. -/
def describe (s : Scope) : String :=
  let names := (s.tags.take 5).map (·.name)
  "DomQuery([" ++ String.intercalate ", " names ++ (if 5 < s.count then ", ..." else "") ++ "])"

end Scope
end EditorBlocks
