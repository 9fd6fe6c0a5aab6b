import EditorBlocks.Markup.Names
import EditorBlocks.Markup.Sketch
import EditorBlocks.Markup.Token
/-!
The state of tree construction and its shared steps: inserting, scopes, the list of formatting
elements, and the reordering of misnested formatting.
-/

namespace EditorBlocks.Markup

/-- What kind of content is being read. -/
inductive Mode
  | body
  | text
  | table
  | tableText
  | caption
  | columnGroup
  | tableBody
  | row
  | cell
  | select
  | selectInTable
  | afterBody
  | afterAfterBody
  deriving DecidableEq, Repr

structure Builder where
  sketch : Sketch
  /-- The open elements, the current one first. -/
  stack : List Nat
  /-- Formatting elements to reopen, the latest first; `none` is a marker. -/
  formatting : List (Option Nat)
  form : Option Nat
  mode : Mode
  /-- The mode to go back to after text that only an end tag closes. -/
  afterText : Mode
  /-- The mode to go back to after text inside a table. -/
  afterTableText : Mode
  /-- Text inside a table, latest piece first. -/
  tableText : List (List Char)
  /-- Whether content that a table cannot hold is moved before it. -/
  fostering : Bool
  /-- Whether a line break that comes next is dropped. -/
  dropNewline : Bool
  textMode : TextMode

abbrev Build (α : Type) := StateM Builder α

namespace Builder

def tagAt (b : Builder) (i : Nat) : Tag := b.sketch.tag i

def nameAt (b : Builder) (i : Nat) : Name := ((b.tagAt i).vocabulary, (b.tagAt i).name)

/-- The current element; the root when none is open. -/
def current (b : Builder) : Nat := b.stack.headD 0

def currentTag (b : Builder) : Tag := b.tagAt b.current
def currentName (b : Builder) : String := b.currentTag.name

/-- The first open element, the root element of the document. -/
def rootElement (b : Builder) : Nat := b.stack.getLastD 0

/-- Looks outward for an element until the boundary of the scope. -/
def inScopeFrom (b : Builder) (scope : Scope) (wanted : Nat → Bool) : List Nat → Bool
  | [] => false
  | i :: rest =>
    if wanted i then true
    else if scope.stopsAt (b.nameAt i) then false
    else inScopeFrom b scope wanted rest

def inScope (b : Builder) (scope : Scope) (name : String) : Bool :=
  b.inScopeFrom scope (fun i => b.nameAt i == (.html, name)) b.stack

def elementInScope (b : Builder) (element : Nat) : Bool :=
  b.inScopeFrom .plain (· == element) b.stack

/-- Where content goes that the innermost table cannot hold: a parent, and the table if it is to
stand before it. -/
def fosterPlace (b : Builder) : Nat × Option Nat :=
  match b.stack.find? fun i => (b.tagAt i).name == "table" with
  | some table =>
    match b.sketch.parent? table with
    | some parent => (parent, some table)
    | none => (((b.stack.dropWhile (· != table)).drop 1).headD b.rootElement, none)
  | none => (b.rootElement, none)

/-- The latest formatting element of this name after the last marker. -/
def formattingNamed? (b : Builder) (name : String) : Option Nat :=
  (b.formatting.takeWhile Option.isSome).findSome? fun entry =>
    entry.filter fun i => (b.tagAt i).name == name

end Builder

def withSketch (f : Sketch → Sketch) : Build Unit :=
  modify fun b => { b with sketch := f b.sketch }

def setMode (mode : Mode) : Build Unit := modify fun b => { b with mode := mode }

def setFostering (on : Bool) : Build Unit := modify fun b => { b with fostering := on }

def popOpen : Build Unit := modify fun b => { b with stack := b.stack.drop 1 }

/-- Closes elements up to and including the first that is wanted. -/
def popThrough (wanted : Builder → Nat → Bool) : Build Unit :=
  modify fun b => { b with stack := (b.stack.dropWhile fun i => !wanted b i).drop 1 }

def popThroughName (name : String) : Build Unit :=
  popThrough fun b i => (b.tagAt i).name == name

/-- Closes elements until one of these names is the current one. -/
def popBackTo (names : List String) : Build Unit :=
  modify fun b =>
    { b with stack := b.stack.dropWhile fun i => !names.contains (b.tagAt i).name }

def newElement (tag : Tag) : Build Nat := do
  let b ← get
  let (sketch, i) := b.sketch.add (.element tag)
  set { b with sketch := sketch }
  return i

/-- Puts a new element at the place for content and opens it. -/
def insertElement (tag : Tag) : Build Nat := do
  let i ← newElement tag
  let b ← get
  if b.fostering && tableContextNames.contains b.currentName then
    let (parent, table) := b.fosterPlace
    match table with
    | some table => withSketch fun s => s.insertBefore parent table i
    | none => withSketch fun s => s.append parent i
  else withSketch fun s => s.append b.current i
  modify fun b => { b with stack := i :: b.stack }
  return i

def insertHtml (name : String) (attributes : List (String × String)) : Build Unit := do
  let _ ← insertElement ⟨.html, name, attributes⟩

/-- Inserts an element that has no content. -/
def insertEmpty (name : String) (attributes : List (String × String)) : Build Unit := do
  insertHtml name attributes
  popOpen

def insertText (data : List Char) : Build Unit := do
  let b ← get
  if b.fostering && tableContextNames.contains b.currentName then
    let (parent, table) := b.fosterPlace
    match table with
    | some table => withSketch fun s => s.insertTextBefore parent table data
    | none => withSketch fun s => s.appendText parent data
  else withSketch fun s => s.appendText b.current data

def insertComment (data : String) (parent : Nat) : Build Unit := do
  withSketch fun s =>
    let (s, i) := s.add (.comment data)
    s.append parent i

/-- Closes elements whose end tags may be left out, up to one that is `kept`. -/
def closeImplied (kept : String) : Build Unit :=
  modify fun b =>
    { b with stack := b.stack.dropWhile fun i =>
        let name := (b.tagAt i).name
        impliedEndNames.contains name && name != kept }

/-- Forgets the formatting elements after the last marker, and the marker. -/
def clearFormatting : Build Unit :=
  modify fun b => { b with formatting := (b.formatting.dropWhile Option.isSome).drop 1 }

def addMarker : Build Unit := modify fun b => { b with formatting := none :: b.formatting }

/-- Reopens formatting elements, earliest first. -/
def reopen : List Nat → Build Unit
  | [] => pure ()
  | old :: rest => do
    let b ← get
    let i ← insertElement (b.tagAt old)
    modify fun b =>
      { b with formatting := b.formatting.map fun e => if e == some old then some i else e }
    reopen rest

/-- Reopens the formatting elements that were closed since the last marker. -/
def reconstructFormatting : Build Unit := do
  let b ← get
  let closed := b.formatting.takeWhile fun entry =>
    match entry with
    | some i => !b.stack.contains i
    | none => false
  reopen (closed.reverse.filterMap id)

def addFormatting (name : String) (attributes : List (String × String)) : Build Unit := do
  let i ← insertElement ⟨.html, name, attributes⟩
  modify fun b => { b with formatting := some i :: b.formatting }

def removeFormatting (i : Nat) : Build Unit :=
  modify fun b => { b with formatting := b.formatting.erase (some i) }

def removeOpen (i : Nat) : Build Unit :=
  modify fun b => { b with stack := b.stack.erase i }

/-- Replaces one number by another in a list. -/
def substitute {α : Type} [BEq α] (old new : α) (xs : List α) : List α :=
  xs.map fun x => if x == old then new else x

/-- The elements opened before `i`, the nearest first. -/
def outerElements (stack : List Nat) (i : Nat) : List Nat := (stack.dropWhile (· != i)).drop 1

/-- Walks outward from the furthest block to the formatting element, at most `steps` elements:
those to be reopened are replaced by copies that take up what was moved so far. Gives the last
node moved, and where in the list of formatting elements, earliest first, the copy will go. -/
def moveOut (element block : Nat) :
    (steps : Nat) → (outer : List Nat) → (last mark : Nat) → Build (Nat × Nat)
  | 0, _, last, mark => pure (last, mark)
  | _ + 1, [], last, mark => pure (last, mark)
  | steps + 1, node :: outer, last, mark => do
    let b ← get
    if !b.formatting.contains (some node) then
      removeOpen node
      moveOut element block steps outer last mark
    else if node == element then return (last, mark)
    else
      let mark := if last == block then b.formatting.reverse.idxOf (some node) + 1 else mark
      let copy ← newElement (b.tagAt node)
      modify fun b => { b with
        formatting := substitute (some node) (some copy) b.formatting
        stack := substitute node copy b.stack }
      withSketch fun s => s.append copy last
      moveOut element block steps outer copy mark

/-- Takes an entry out of a list and puts another at a position counted without it. -/
def moveEntry {α : Type} [BEq α] (old new : α) (position : Nat) (xs : List α) : List α :=
  let kept := xs.erase old
  kept.take position ++ new :: kept.drop position

/-- One round of the reordering, when a block lies open inside the formatting element: the block
is moved out, and a copy of the formatting element takes over its content. -/
def reorderAround (element block : Nat) : Build Unit := do
  let b ← get
  let ancestor := (outerElements b.stack element).headD b.rootElement
  let mark := b.formatting.reverse.idxOf (some element)
  let (last, mark) ← moveOut element block 3 (outerElements b.stack block) block mark
  let b ← get
  if tableContextNames.contains (b.tagAt ancestor).name then
    let (parent, table) := b.fosterPlace
    match table with
    | some table => withSketch fun s => s.insertBefore parent table last
    | none => withSketch fun s => s.append parent last
  else withSketch fun s => s.append ancestor last
  let copy ← newElement (b.tagAt element)
  withSketch fun s => (s.moveChildren block copy).append block copy
  modify fun b => { b with
    formatting := (moveEntry (some element) (some copy) mark b.formatting.reverse).reverse
    stack := (b.stack.erase element).flatMap fun i => if i == block then [copy, i] else [i] }

end EditorBlocks.Markup
