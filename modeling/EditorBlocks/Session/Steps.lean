import EditorBlocks.Session.Parser
/-!
Sessions: one parser in use, with hooks registered and copies of its lists handed out between parses.
-/

namespace EditorBlocks

/-- The lists of a parser that are handed out. -/
inductive Listing
  | types
  | predicates
  | processors
  deriving DecidableEq, Repr

/-- A copy that has been handed out. -/
inductive Copied
  | types (types : List (String × BlockType))
  | predicates (predicates : List Predicate)
  | processors (processors : List Processor)

namespace Copied

def of (p : Parser) : Listing → Copied
  | .types => types p.registry.types
  | .predicates => predicates p.hooks.predicates
  | .processors => processors p.hooks.processors

def cleared : Copied → Copied
  | types _ => types []
  | predicates _ => predicates []
  | processors _ => processors []

end Copied

inductive SessionStep
  | parse (r : Request)
  | addPredicate (q : Predicate)
  | addProcessor (q : Processor)
  | handOut (listing : Listing)
  /-- the copy of this number is cleared, if it has been handed out -/
  | clear (number : Nat)

structure Session where
  parser : Parser
  journal : Journal
  copies : List Copied

namespace Session

def start (p : Parser) (metadata : Metadata) : Session := ⟨p, .start metadata, []⟩

def step (s : Session) : SessionStep → Session
  | .parse r => { s with journal := (s.parser.parse r s.journal).2 }
  | .addPredicate q => { s with parser.hooks := s.parser.hooks.addPredicate q }
  | .addProcessor q => { s with parser.hooks := s.parser.hooks.addProcessor q }
  | .handOut listing => { s with copies := s.copies ++ [.of s.parser listing] }
  | .clear number => { s with copies := s.copies.modify number Copied.cleared }

def after (s : Session) (steps : List SessionStep) : Session := steps.foldl step s

end Session

/-- The hooks with what a step registers. -/
def Hooks.registering (h : Hooks) : SessionStep → Hooks
  | .addPredicate q => h.addPredicate q
  | .addProcessor q => h.addProcessor q
  | _ => h

/-- The parser as it is built anew, with all that steps have registered. -/
def Parser.rebuilt (p : Parser) (steps : List SessionStep) : Parser :=
  { p with hooks := steps.foldl Hooks.registering p.hooks }

end EditorBlocks
