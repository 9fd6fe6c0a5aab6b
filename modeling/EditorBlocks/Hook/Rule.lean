import EditorBlocks.Hook.Basic
import EditorBlocks.Text.Occurrence
/-!
Rules: ready-made predicates and processors, given as data.
-/

namespace EditorBlocks

/-- Ready-made predicates. -/
inductive PredicateRule
  | const (value : Value)
  | negate
  | deny (name : Option String)
  | force (name : Option String)
  | htmlHas (text : String)
  /-- the value of an explicit attribute -/
  | attr (name : String)
  | minInner (count : Int)
  | fail (fault : Fault)

namespace PredicateRule

def answer (included : Bool) (name : Option String) (block : ParsedBlock) :
    PredicateRule → Except Fault Value
  | const value => .ok value
  | negate => .ok (.bool !included)
  | deny denied => .ok (.bool (included && name != denied))
  | force forced => .ok (.bool (included || name == forced))
  | htmlHas text => .ok (.bool (included && Text.occursIn text.toList block.html.toList))
  | attr key => .ok ((Entries.find? key block.attrs).getD .null)
  | minInner count => .ok (.bool (count ≤ block.inner.length))
  | fail fault => .error fault

def toPredicate (rule : PredicateRule) : Predicate :=
  fun included name block => rule.answer included name block

end PredicateRule

/-- Ready-made processors. -/
inductive ProcessorRule
  | assign (key : String) (value : Value)
  /-- a value for an attribute that is not there -/
  | setDefault (key : String) (value : Value)
  /-- one more item for an attribute that is a list, in place -/
  | append (key : String) (item : Value)
  | remove (key : String)
  /-- a new block with the same attributes and nothing else -/
  | rename (name : Option String)
  | clear
  | dropInner
  | reverseInner
  /-- what the processor was given, as an attribute -/
  | context
  | only (name : Option String) (rule : ProcessorRule)
  | fail (fault : Fault)

namespace ProcessorRule

abbrev Step := ExceptT Fault (StateM Changeable)

/-- The attributes of a block, or a fault if they have been taken away. -/
def attributesOr (fault : Fault) (d : Draft) : Step (List (String × Held)) :=
  match d.attributes with
  | some attributes => pure attributes
  | none => throw fault

def put (key : String) (value : Value) (d : Draft) : Step Draft := do
  let attributes ← attributesOr .unassignable d
  pure (d.withAttributes (some (Entries.put key (.own value) attributes)))

/-- Adds an item in place to an attribute that is there. -/
def appendTo (key : String) (item : Value) (d : Draft) : Step Draft := do
  let attributes ← attributesOr .unchangeable d
  match Entries.find? key attributes with
  | none => pure d
  | some held =>
    let (held, shared) := held.append (← get).toShared item
    modify fun s => { s with toShared := shared }
    pure (d.withAttributes (some (Entries.put key held attributes)))

/-- The block's name, the post, and the sizes of the block's HTML and of its inner forest. -/
def contextValue (d : Draft) (name : Option String) (postId : Option Int) (block : ParsedBlock) :
    Value :=
  .list [(name.map Value.str).getD .null, (postId.map Value.int).getD .null,
    .int block.html.length, .int d.inner.length]

def apply (d : Draft) (name : Option String) (postId : Option Int) (block : ParsedBlock) :
    ProcessorRule → Step Draft
  | assign key value => put key value d
  | setDefault key value => do
    let attributes ← attributesOr .unchangeable d
    if Entries.has key attributes then pure d else put key value d
  | append key item => appendTo key item d
  | remove key => do
    let attributes ← attributesOr .unchangeable d
    pure (d.withAttributes (some (Entries.erase key attributes)))
  | rename newName => do
    let attributes ← attributesOr .unattributed d
    pure (.mk newName (some attributes) [] none)
  | clear => pure (d.withAttributes none)
  | dropInner => pure (d.withInner [])
  | reverseInner => pure (d.withInner d.inner.reverse)
  | context => put "context" (contextValue d name postId block) d
  | only wanted rule => if name = wanted then apply d name postId block rule else pure d
  | fail fault => throw fault

def toProcessor (rule : ProcessorRule) : Processor :=
  fun d name postId block => rule.apply d name postId block

end ProcessorRule
end EditorBlocks
