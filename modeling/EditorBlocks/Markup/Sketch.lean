import EditorBlocks.Markup.Node
/-!
A document under construction: numbered nodes with links, so that a node can move while it is
still open. `toDocument` turns a finished sketch into a tree.
-/

namespace EditorBlocks.Markup

inductive SketchContent
  | root
  | element (tag : Tag)
  | text (data : String)
  | comment (data : String)

structure SketchNode where
  content : SketchContent
  parent : Option Nat
  children : List Nat

structure Sketch where
  nodes : Array SketchNode

namespace Sketch

/-- Only the root, node 0. -/
def empty : Sketch := ⟨#[⟨.root, none, []⟩]⟩

def content? (s : Sketch) (i : Nat) : Option SketchContent := s.nodes[i]?.map (·.content)

/-- The tag of an element; of another node one without name. -/
def tag (s : Sketch) (i : Nat) : Tag :=
  match s.content? i with
  | some (.element tag) => tag
  | _ => ⟨.html, "", []⟩

def children (s : Sketch) (i : Nat) : List Nat := (s.nodes[i]?.map (·.children)).getD []

def parent? (s : Sketch) (i : Nat) : Option Nat := s.nodes[i]?.bind (·.parent)

def setChildren (s : Sketch) (i : Nat) (children : List Nat) : Sketch :=
  ⟨s.nodes.modify i fun n => { n with children := children }⟩

def setParent (s : Sketch) (i : Nat) (parent : Option Nat) : Sketch :=
  ⟨s.nodes.modify i fun n => { n with parent := parent }⟩

def setTag (s : Sketch) (i : Nat) (tag : Tag) : Sketch :=
  ⟨s.nodes.modify i fun n => { n with content := .element tag }⟩

/-- A new node without a place. -/
def add (s : Sketch) (content : SketchContent) : Sketch × Nat :=
  (⟨s.nodes.push ⟨content, none, []⟩⟩, s.nodes.size)

/-- Takes a node out of its parent. -/
def detach (s : Sketch) (i : Nat) : Sketch :=
  match s.parent? i with
  | some p => (s.setChildren p ((s.children p).filter (· != i))).setParent i none
  | none => s

def append (s : Sketch) (parent i : Nat) : Sketch :=
  let s := s.detach i
  (s.setChildren parent (s.children parent ++ [i])).setParent i (some parent)

/-- Puts `i` before `sibling`, among the children of `parent`. -/
def insertBefore (s : Sketch) (parent sibling i : Nat) : Sketch :=
  let s := s.detach i
  let (before, after) := (s.children parent).span (· != sibling)
  (s.setChildren parent (before ++ i :: after)).setParent i (some parent)

/-- Adds text at the end of a text node. -/
def extendText (s : Sketch) (i : Nat) (data : List Char) : Sketch :=
  ⟨s.nodes.modify i fun n =>
    match n.content with
    | .text old => { n with content := .text (old ++ String.ofList data) }
    | _ => n⟩

def isText (s : Sketch) (i : Nat) : Bool :=
  match s.content? i with
  | some (.text _) => true
  | _ => false

/-- Text after the last child; two texts never stand side by side. -/
def appendText (s : Sketch) (parent : Nat) (data : List Char) : Sketch :=
  match (s.children parent).getLast? with
  | some last =>
    if s.isText last then s.extendText last data
    else let (s, i) := s.add (.text (String.ofList data)); s.append parent i
  | none => let (s, i) := s.add (.text (String.ofList data)); s.append parent i

def insertTextBefore (s : Sketch) (parent sibling : Nat) (data : List Char) : Sketch :=
  match ((s.children parent).takeWhile (· != sibling)).getLast? with
  | some last =>
    if s.isText last then s.extendText last data
    else let (s, i) := s.add (.text (String.ofList data)); s.insertBefore parent sibling i
  | none => let (s, i) := s.add (.text (String.ofList data)); s.insertBefore parent sibling i

/-- Moves all children to the end of another node. -/
def moveChildren (s : Sketch) (source target : Nat) : Sketch :=
  (s.children source).foldl (fun s i => s.append target i) s

/-- The tree under a node, as deep as `depth` allows. -/
def toNode? (s : Sketch) : (depth : Nat) → Nat → Option Node
  | 0, _ => none
  | depth + 1, i =>
    match s.content? i with
    | some (.element tag) => some (.element tag ((s.children i).filterMap (s.toNode? depth)))
    | some (.text data) => some (.text data)
    | some (.comment data) => some (.comment data)
    | _ => none

/-- The finished document. No path is longer than there are nodes. -/
def toDocument (s : Sketch) : Document :=
  ⟨(s.children 0).filterMap (s.toNode? s.nodes.size)⟩

end Sketch
end EditorBlocks.Markup
