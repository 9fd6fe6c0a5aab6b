import EditorBlocks.Sourcing.Fault
import EditorBlocks.Sourcing.Held
/-!
Hooks: predicates that decide which blocks are admitted, and processors that change sourced blocks.
Both run in the order in which they were registered.
-/

namespace EditorBlocks

/-- What processors can change in place: the values they share with others, and the parsed blocks
themselves. A parsed block can be spoilt, its attributes taken away or the block put inside itself;
then there is a fault with which it ends when it is written as data. -/
structure Changeable extends Shared where
  spoilt : Option Fault

/-- Decides on a block, given the decision so far and the name of the block. The answer can be of
any kind; it counts as its truth. -/
abbrev Predicate := (included : Bool) → (name : Option String) → ParsedBlock → Except Fault Value

/-- Changes a sourced block, given the name that the block was parsed with, the post and the parsed
block. Changes in place stay when a processor fails. -/
abbrev Processor :=
  Draft → (name : Option String) → (postId : Option Int) → ParsedBlock →
    ExceptT Fault (StateM Changeable) Draft

structure Hooks where
  predicates : List Predicate
  processors : List Processor

namespace Hooks

def none : Hooks := ⟨[], []⟩

def addPredicate (h : Hooks) (p : Predicate) : Hooks := { h with predicates := h.predicates ++ [p] }

def addProcessor (h : Hooks) (p : Processor) : Hooks := { h with processors := h.processors ++ [p] }

end Hooks

/-- One call of a hook, by its number, with what it was given. -/
inductive HookCall
  | decided (predicate : Nat) (included : Bool) (name : Option String) (block : ParsedBlock)
  | processed (processor : Nat) (sourced : Draft) (name : Option String) (postId : Option Int)
      (block : ParsedBlock)

end EditorBlocks
