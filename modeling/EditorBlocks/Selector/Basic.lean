import EditorBlocks.Text.Direction
/-!
Selectors: conditions on an element and on the elements it is related to.
-/

namespace EditorBlocks.Selector

/-- How one element stands to another. -/
inductive Relation
  | ancestor
  | parent
  | earlierSibling
  | previousSibling
  | descendant
  | child
  | laterSibling
  | nextSibling
  deriving DecidableEq, Repr

/-- The vocabulary that a name asks for: any, none at all, or the one of a prefix. -/
inductive Space
  | any
  | absent
  | named (name : String)
  deriving DecidableEq, Repr

/-- How the value of an attribute is compared. -/
inductive Operator
  | equals
  | startsWith
  | endsWith
  | contains
  | hasWord
  | dashed
  deriving DecidableEq, Repr

structure Comparison where
  operator : Operator
  value : String
  ignoreCase : Bool
  deriving DecidableEq, Repr

structure AttributeTest where
  space : Space
  name : String
  comparison : Option Comparison
  deriving DecidableEq, Repr

/-- Counted places: `offset`, and if it repeats also every `step` from there. -/
structure Cycle where
  step : Int
  offset : Int
  repeats : Bool
  deriving DecidableEq, Repr

mutual
/-- One condition on an element. -/
inductive Condition
  /-- a state that no parsed document has -/
  | never
  | tag (space : Space) (name : String)
  | id (value : String)
  | hasClass (name : String)
  | withAttribute (test : AttributeTest)
  | root
  | scope
  | empty
  | defined
  /-- no text but at most one line break -/
  | textless
  /-- the place among the siblings that `among` selects; all of them if it is empty -/
  | nthChild (fromEnd : Bool) (cycle : Cycle) (htmlNames : Bool) (among : List Complex)
  | nthOfType (fromEnd : Bool) (cycle : Cycle)
  | language (ranges : List String)
  | direction (direction : Text.Direction)
  | containsText (own : Bool) (texts : List String)
  | valueRange (inside : Bool)
  | defaultSubmit
  | indeterminateRadio
  /-- at least one of the alternatives, or none of them; `htmlNames` gives the prefix `html` its
  meaning inside -/
  | oneOf (negated : Bool) (htmlNames : Bool) (alternatives : List Complex)

/-- Conditions on one element, and perhaps on another that stands in a relation to it. -/
inductive Complex
  | compound (conditions : List Condition)
  | related (conditions : List Condition) (relation : Relation) (other : Complex)
end

end EditorBlocks.Selector

namespace EditorBlocks

/-- A list of selectors; it selects what one of them selects. -/
structure SelectorList where
  htmlNames : Bool
  alternatives : List Selector.Complex

end EditorBlocks
