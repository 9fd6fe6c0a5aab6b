import EditorBlocks.Data.Yaml.Layout
import EditorBlocks.Data.Yaml.Kind
/-!
Nodes: the structure of a document, with tags worked out and each alias replaced by the node that it
stands for.
-/

namespace EditorBlocks.Yaml

inductive Node
  | scalar (kind : Kind) (text : String)
  | sequence (kind : Kind) (items : List Node)
  | mapping (kind : Kind) (entries : List (Node × Node))

/-- What is left to read, the nodes that have names, and what the handles of tags stand for. A name
without a node belongs to a node that is being read. -/
structure Reading where
  tokens : List Token
  named : List (String × Option Node)
  handles : List (String × String)

abbrev NodeReader := StateT Reading Option

def fail {α : Type} : NodeReader α := fun _ => none

/-- The next token, which stays. -/
def peek : NodeReader (Option Token) := do return (← get).tokens.head?

def skip : NodeReader Unit := modify fun s => { s with tokens := s.tokens.drop 1 }

/-- Takes the next token if it is this one. -/
def accept (t : Token) : NodeReader Bool := do
  if (← peek) = some t then
    skip
    return true
  else return false

def expect (t : Token) : NodeReader Unit := do
  if !(← accept t) then fail

/-- The node of nothing. -/
def Node.empty : Node := .scalar .null ""

def acceptAnchor : NodeReader (Option String) := do
  match ← peek with
  | some (.anchor name) =>
    skip
    return some name
  | _ => return none

def acceptTag : NodeReader (Option TagWord) := do
  match ← peek with
  | some (.tag word) =>
    skip
    return some word
  | _ => return none

/-- The anchor and the tag of a node, in either order. -/
def properties : NodeReader (Option String × Option TagWord) := do
  match ← acceptAnchor with
  | some name => return (some name, ← acceptTag)
  | none =>
    let tag ← acceptTag
    return (← acceptAnchor, tag)

/-- The whole name of a tag. -/
def tagName (word : TagWord) : NodeReader String := do
  match word.handle with
  | none => return word.suffix
  | some handle =>
    match Entries.find? handle (← get).handles with
    | some address => return address ++ word.suffix
    | none => fail

/-- The node that an alias stands for; it must be complete. -/
def aliased (name : String) : NodeReader Node := do
  match Entries.find? name (← get).named with
  | some (some node) => return node
  | _ => fail

/-- Reads a node that may have a name. Names are given once. -/
def naming (anchor : Option String) (read : NodeReader Node) : NodeReader Node := do
  match anchor with
  | none => read
  | some name =>
    if Entries.has name (← get).named then fail
    else
      modify fun s => { s with named := Entries.put name none s.named }
      let node ← read
      modify fun s => { s with named := Entries.put name (some node) s.named }
      return node

/-- The kind of a node: as its tag says, or as it is without a tag. The tag `!` says nothing. -/
def kindOr (plain : Kind) : Option String → Kind
  | none | some "!" => plain
  | some name => Kind.ofTag name

/-- The kind of a scalar. Without a tag only a plain one can be more than text. -/
def scalarKind (tag : Option String) (text : String) (plain : Bool) : Kind :=
  match tag with
  | none => if plain then Kind.ofPlain text else .text
  | some "!" => Kind.ofPlain text
  | some name => Kind.ofTag name

/-- A node with nothing but an anchor or a tag. -/
def bare (anchor tag : Option String) : NodeReader Node :=
  if anchor.isSome || tag.isSome then return .scalar (scalarKind tag "" tag.isNone) ""
  else fail

/-- The places where nodes stand. In a block the structures may be those of indentation; after a key
a sequence need not be indented. -/
inductive Place
  | flow
  | block
  | afterKey
  deriving DecidableEq

/-- The tokens before which an entry is empty. -/
def endsEntry : Option Token → Bool
  | some .key | some .value | some .blockEnd => true
  | _ => false

mutual
/-- One node. -/
def node : (fuel : Nat) → Place → NodeReader Node
  | 0, _ => fail
  | fuel + 1, place => do
    match ← peek with
    | some (.alias name) =>
      skip
      aliased name
    | _ =>
      let (anchor, word) ← properties
      let tag ← match word with
        | some word => some <$> tagName word
        | none => pure none
      naming anchor do
        match ← peek with
        | some .blockEntry =>
          if place = .afterKey then
            return .sequence (kindOr .sequence tag) (← plainItems fuel)
          else bare anchor tag
        | some (.scalar text plain) =>
          skip
          return .scalar (scalarKind tag text plain) text
        | some .flowSequence =>
          skip
          return .sequence (kindOr .sequence tag) (← flowItems fuel true)
        | some .flowMapping =>
          skip
          return .mapping (kindOr .mapping tag) (← flowEntries fuel true)
        | some .blockSequence =>
          if place = .flow then bare anchor tag
          else
            skip
            return .sequence (kindOr .sequence tag) (← blockItems fuel)
        | some .blockMapping =>
          if place = .flow then bare anchor tag
          else
            skip
            return .mapping (kindOr .mapping tag) (← blockEntries fuel)
        | _ => bare anchor tag

/-- The items of an indented sequence. -/
def blockItems : (fuel : Nat) → NodeReader (List Node)
  | 0 => fail
  | fuel + 1 => do
    if ← accept .blockEntry then
      let next ← peek
      let item ← if next = some .blockEntry || next = some .blockEnd then pure Node.empty
        else node fuel .block
      return item :: (← blockItems fuel)
    else
      expect .blockEnd
      return []

/-- The items of a sequence that is not indented. -/
def plainItems : (fuel : Nat) → NodeReader (List Node)
  | 0 => fail
  | fuel + 1 => do
    if ← accept .blockEntry then
      let next ← peek
      let item ← if next = some .blockEntry || endsEntry next then pure Node.empty
        else node fuel .block
      return item :: (← plainItems fuel)
    else return []

/-- The entries of an indented mapping. -/
def blockEntries : (fuel : Nat) → NodeReader (List (Node × Node))
  | 0 => fail
  | fuel + 1 => do
    if ← accept .key then
      let key ← blockPart fuel
      let value ← if ← accept .value then blockPart fuel else pure Node.empty
      return (key, value) :: (← blockEntries fuel)
    else
      expect .blockEnd
      return []

/-- A key or a value of an indented mapping, which may be empty. -/
def blockPart : (fuel : Nat) → NodeReader Node
  | 0 => fail
  | fuel + 1 => do if endsEntry (← peek) then return Node.empty else node fuel .afterKey

/-- A key or a value between brackets, empty before an end. -/
def flowPart (close : Token) : (fuel : Nat) → (beforeValue : Bool) → NodeReader Node
  | 0, _ => fail
  | fuel + 1, beforeValue => do
    let next ← peek
    if next = some .flowEntry || next = some close || (beforeValue && next = some .value) then
      return Node.empty
    else node fuel .flow

/-- The value after a key between brackets, if a colon comes. -/
def flowValue (close : Token) : (fuel : Nat) → NodeReader Node
  | 0 => fail
  | fuel + 1 => do
    if ← accept .value then flowPart close fuel false else return Node.empty

/-- The items of a sequence in brackets. A single entry with a colon is a mapping. -/
def flowItems : (fuel : Nat) → (first : Bool) → NodeReader (List Node)
  | 0, _ => fail
  | fuel + 1, first => do
    if ← accept .flowSequenceEnd then return []
    else
      if !first then expect .flowEntry
      if ← accept .flowSequenceEnd then return []
      else if ← accept .key then
        let key ← flowPart .flowSequenceEnd fuel true
        let value ← flowValue .flowSequenceEnd fuel
        return .mapping .mapping [(key, value)] :: (← flowItems fuel false)
      else
        let item ← node fuel .flow
        return item :: (← flowItems fuel false)

/-- The entries of a mapping in braces. -/
def flowEntries : (fuel : Nat) → (first : Bool) → NodeReader (List (Node × Node))
  | 0, _ => fail
  | fuel + 1, first => do
    if ← accept .flowMappingEnd then return []
    else
      if !first then expect .flowEntry
      if ← accept .flowMappingEnd then return []
      else if ← accept .key then
        let key ← flowPart .flowMappingEnd fuel true
        let value ← flowValue .flowMappingEnd fuel
        return (key, value) :: (← flowEntries fuel false)
      else
        let key ← node fuel .flow
        return (key, Node.empty) :: (← flowEntries fuel false)
end

/-- The handles that stand for something in any document. -/
def commonHandles : List (String × String) := [("!", "!"), ("!!", Kind.address)]

/-- Directives before a document: at most one version, of which the first number must be one, and
handles for tags, each given once. -/
def directives : (fuel : Nat) → (versioned : Bool) → (handles : List (String × String)) →
    NodeReader (List (String × String))
  | 0, _, _ => fail
  | fuel + 1, versioned, handles => do
    match ← peek with
    | some (.directive d) =>
      skip
      match d with
      | .unknown => directives fuel versioned handles
      | .version major =>
        if versioned || major != 1 then fail else directives fuel true handles
      | .tag handle address =>
        if Entries.has handle handles then fail
        else directives fuel versioned (Entries.put handle address handles)
    | _ => return handles ++ commonHandles.filter fun h => !Entries.has h.1 handles

def skipDocumentEnds : (fuel : Nat) → NodeReader Unit
  | 0 => fail
  | fuel + 1 => do if ← accept .documentEnd then skipDocumentEnds fuel

/-- The document after its start has been marked. -/
def markedDocument (fuel : Nat) : NodeReader Node := do
  match ← peek with
  | none | some (.directive _) | some .documentStart | some .documentEnd => return Node.empty
  | _ => node fuel .block

/-- A document that begins with directives or a mark. -/
def explicitDocument (fuel : Nat) : NodeReader Node := do
  let handles ← directives fuel false []
  modify fun s => { s with handles := handles }
  expect .documentStart
  markedDocument fuel

/-- The one document of a text, if there is any. -/
def document (fuel : Nat) : NodeReader (Option Node) := do
  match ← peek with
  | none => return none
  | some (.directive _) | some .documentStart => some <$> explicitDocument fuel
  | _ => some <$> node fuel .block

/-- The one document of a text with nothing after it. -/
def Node.ofTokens? (tokens : List Token) : Option (Option Node) := do
  let fuel := 4 * tokens.length + 8
  let read : NodeReader (Option Node) := do
    let found ← document fuel
    skipDocumentEnds fuel
    return found
  let (found, s) ← read.run ⟨tokens, [], commonHandles⟩
  if s.tokens.isEmpty then some found else none

end EditorBlocks.Yaml
